/-
# Declaration.Literal -- the values of literals

Of the values that stand in declarations only texts and truth values matter, and the
integers that fields are known by.  A text is spelled between quotes, with escapes for what
cannot stand there, or raw, without any.
-/
import Cqrs.Declaration.Token
import Cqrs.Number.Base

namespace Cqrs.Declaration

set_option autoImplicit false

/-- A value, as far as it matters. -/
inductive Literal where
  | text (value : String)
  | bool (value : Bool)
  | other
deriving DecidableEq, Repr

/-- The character whose number digits spell in base sixteen; an underscore is no digit. -/
def characterOf (digits : List Char) : Char :=
  Char.ofNat ((Number.ofHexDigits? (digits.filter (· != '_'))).getD 0)

/-- The characters that a backslash and a letter stand for. -/
def shortEscapes : List (Char × Char) :=
  [('n', '\n'), ('r', '\r'), ('t', '\t'), ('0', '\x00'), ('\\', '\\'), ('\'', '\''), ('"', '"')]

/-- The text that is spelled up to the next quote.  A backslash at the end of a line joins
the lines without the blanks between them. -/
def unescaped : Nat → List Char → List Char
  | 0, _ => []
  | fuel + 1, text =>
      match text with
      | [] | '"' :: _ => []
      | '\r' :: '\n' :: rest => '\n' :: unescaped fuel rest
      | '\\' :: 'x' :: a :: b :: rest => characterOf [a, b] :: unescaped fuel rest
      | '\\' :: 'u' :: '\x7b' :: rest =>
          let digits := rest.takeWhile (· != '\x7d')
          characterOf digits :: unescaped fuel (rest.drop (digits.length + 1))
      | '\\' :: c :: rest =>
          match shortEscapes.find? (·.1 == c) with
          | some (_, meant) => meant :: unescaped fuel rest
          | none => unescaped fuel (rest.dropWhile Text.isBlank)
      | c :: rest => c :: unescaped fuel rest

/-- The text up to the quote that the hashes follow. -/
def rawText (hashes : List Char) : List Char → List Char
  | [] => []
  | c :: rest =>
      if c = '"' && hashes.isPrefixOf rest then [] else c :: rawText hashes rest

/-- The text that a literal spells, if it spells one. -/
def spelledText? (literal : List Char) : Option String :=
  match literal with
  | '"' :: rest => some (String.ofList (unescaped (rest.length + 1) rest))
  | 'r' :: rest =>
      let hashes := rest.takeWhile (· == '#')
      some (String.ofList (rawText hashes (rest.drop (hashes.length + 1))))
  | _ => none

/-- The text after a letter `e` makes the number before it one with an exponent. -/
def beginsExponent (text : List Char) : Bool :=
  let places := text.takeWhile fun c => c.isDigit || c == '_'
  places.any Char.isDigit ||
    (text.drop places.length).head?.any fun c => c == '+' || c == '-'

/-- The integer that a literal spells and the literal's suffix, if it spells an integer. -/
def spelledInteger? (literal : List Char) : Option (Nat × List Char) :=
  let (base, text) := Number.splitBase literal
  let isPlace (c : Char) : Bool :=
    c == '_' || c.isDigit || (base == 16 && (Number.hexDigit? c).isSome)
  let places := text.takeWhile isPlace
  let suffix := text.drop places.length
  let isInteger : Bool :=
    literal.head?.any Char.isDigit && places.any (· != '_') &&
      match suffix with
      | '.' :: _ => base != 10
      | 'e' :: rest | 'E' :: rest => base != 10 || !beginsExponent rest
      | _ => true
  if isInteger then (Number.ofDigits? base (places.filter (· != '_'))).map (·, suffix)
  else none

def Literal.ofToken : Token → Literal
  | .word "true" => .bool true
  | .word "false" => .bool false
  | .literal spelled =>
      match spelledText? spelled with
      | some value => .text value
      | none => .other
  | _ => .other

end Cqrs.Declaration
