/-
# Json.Parser -- reading JSON texts

A number without point and exponent that fits 64 bits, signed or unsigned, is read as an
integer and any other one as the nearest binary64 number; a zero with a sign is no integer,
since its sign would be lost.  The readers give the value and
the rest of the text; each step down takes at least one character, so the length of a text
bounds them.
-/
import Cqrs.Json
import Cqrs.Number.Decimal
import Cqrs.Number.Base

namespace Cqrs.Json

set_option autoImplicit false

/-- A value and the rest of the text, or what could not be read. -/
abbrev Reading (α : Type) := Except String (α × List Char)

/-- The text from its first character that is not blank. -/
def skipBlanks (text : List Char) : List Char :=
  text.dropWhile Char.isWhitespace

def readUnit : List Char → Reading Nat
  | a :: b :: c :: d :: rest =>
      match Number.ofHexDigits? [a, b, c, d] with
      | some unit => .ok (unit, rest)
      | none => .error "escape"
  | _ => .error "escape"

/-- Reads what follows a backslash; characters beyond 16 bits come as two halves. -/
def readEscape : List Char → Except String (Char × List Char)
  | '"' :: rest => .ok ('"', rest)
  | '\\' :: rest => .ok ('\\', rest)
  | '/' :: rest => .ok ('/', rest)
  | 'n' :: rest => .ok ('\n', rest)
  | 't' :: rest => .ok ('\t', rest)
  | 'r' :: rest => .ok ('\r', rest)
  | 'b' :: rest => .ok ('\x08', rest)
  | 'f' :: rest => .ok ('\x0c', rest)
  | 'u' :: rest => do
      let (high, rest) ← readUnit rest
      if 0xD800 ≤ high ∧ high < 0xDC00 then
        match rest with
        | '\\' :: 'u' :: rest =>
            let (low, rest) ← readUnit rest
            if 0xDC00 ≤ low ∧ low < 0xE000 then
              return (Char.ofNat (0x10000 + (high - 0xD800) * 0x400 + (low - 0xDC00)), rest)
            else throw "surrogate"
        | _ => throw "surrogate"
      else if 0xDC00 ≤ high ∧ high < 0xE000 then throw "surrogate"
      else return (Char.ofNat high, rest)
  | _ => .error "escape"

/-- Reads a text up to its closing quote, what was read kept backwards.  Control characters have
to be escaped. -/
def readText : Nat → List Char → List Char → Reading String
  | 0, _, _ => .error "text"
  | fuel + 1, read, text =>
      match text with
      | '"' :: rest => .ok (String.ofList read.reverse, rest)
      | '\\' :: rest =>
          match readEscape rest with
          | .ok (c, rest) => readText fuel (c :: read) rest
          | .error error => .error error
      | c :: rest => if c.toNat < 0x20 then .error "text" else readText fuel (c :: read) rest
      | [] => .error "text"

def isNumberChar (c : Char) : Bool :=
  c.isDigit || c == '-' || c == '+' || c == '.' || c == 'e' || c == 'E'

/-- The literal begins as a number has to: with no sign but a minus, no needless zero, and digits
on both sides of a point. -/
def beginsAsNumber (literal : List Char) : Bool :=
  let unsigned := if literal.head? = some '-' then literal.tail else literal
  let whole := unsigned.takeWhile Char.isDigit
  !whole.isEmpty && (whole.length == 1 || whole.head? != some '0') &&
    match unsigned.dropWhile Char.isDigit with
    | '.' :: fraction => fraction.head?.any Char.isDigit
    | _ => true

def floatOf (literal : List Char) : Except String Json :=
  match Number.readBinary64? literal with
  | some (.finite value) => .ok (.number (.float value))
  | _ => .error "number"

def numberOf (literal : List Char) : Except String Json :=
  if beginsAsNumber literal then
    match (String.ofList literal).toInt? with
    | some value =>
        if value = 0 ∧ literal.head? = some '-' then floatOf literal
        else if -9223372036854775808 ≤ value ∧ value < 18446744073709551616 then .ok (.int value)
        else floatOf literal
    | none => floatOf literal
  else .error "number"

mutual

def readValue : Nat → List Char → Reading Json
  | 0, _ => .error "value"
  | fuel + 1, text =>
      match skipBlanks text with
      | 'n' :: 'u' :: 'l' :: 'l' :: rest => .ok (.null, rest)
      | 't' :: 'r' :: 'u' :: 'e' :: rest => .ok (.bool true, rest)
      | 'f' :: 'a' :: 'l' :: 's' :: 'e' :: rest => .ok (.bool false, rest)
      | '"' :: rest => (readText fuel [] rest).map fun read => (.string read.1, read.2)
      | '[' :: rest =>
          match skipBlanks rest with
          | ']' :: rest => .ok (.array [], rest)
          | rest => readItems fuel [] rest
      | '\x7b' :: rest =>
          match skipBlanks rest with
          | '\x7d' :: rest => .ok (.object [], rest)
          | rest => readEntries fuel [] rest
      | text =>
          (numberOf (text.takeWhile isNumberChar)).map fun value =>
            (value, text.dropWhile isNumberChar)

/-- Reads the items of an array up to its end, those read kept backwards. -/
def readItems : Nat → List Json → List Char → Reading Json
  | 0, _, _ => .error "array"
  | fuel + 1, read, text =>
      match readValue fuel text with
      | .error error => .error error
      | .ok (item, rest) =>
          match skipBlanks rest with
          | ',' :: rest => readItems fuel (item :: read) rest
          | ']' :: rest => .ok (.array (item :: read).reverse, rest)
          | _ => .error "array"

/-- Reads the entries of an object up to its end, those read kept backwards. -/
def readEntries : Nat → List (String × Json) → List Char → Reading Json
  | 0, _, _ => .error "object"
  | fuel + 1, read, text =>
      match skipBlanks text with
      | '"' :: rest =>
          match readText fuel [] rest with
          | .error error => .error error
          | .ok (key, rest) =>
              match skipBlanks rest with
              | ':' :: rest =>
                  match readValue fuel rest with
                  | .error error => .error error
                  | .ok (value, rest) =>
                      match skipBlanks rest with
                      | ',' :: rest => readEntries fuel ((key, value) :: read) rest
                      | '\x7d' :: rest => .ok (ofEntries ((key, value) :: read).reverse, rest)
                      | _ => .error "object"
              | _ => .error "object"
      | _ => .error "object"

end

/-- Reads a text that is all one value, blanks around it aside. -/
def parse (text : String) : Except String Json :=
  let characters := text.toList
  match readValue (characters.length + 1) characters with
  | .ok (value, rest) => if (skipBlanks rest).isEmpty then .ok value else .error "end"
  | .error error => .error error

end Cqrs.Json
