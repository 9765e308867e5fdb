/-
# Json.Printer -- JSON values as text

The text of a value without blanks.  Quotes and backslashes are escaped, and so are control
characters: some by a letter of their own, the others by their number.  All other characters
stand for themselves.
-/
import Cqrs.Json

namespace Cqrs.Json

set_option autoImplicit false

/-- What stands for a character after a backslash, where there is such a sign. -/
def sign? : Char → Option Char
  | '"' => some '"'
  | '\\' => some '\\'
  | '\n' => some 'n'
  | '\t' => some 't'
  | '\r' => some 'r'
  | '\x08' => some 'b'
  | '\x0c' => some 'f'
  | _ => none

def escaped (c : Char) : List Char :=
  match sign? c with
  | some sign => ['\\', sign]
  | none =>
      if c.toNat < 0x20 then
        ['\\', 'u', '0', '0', Nat.digitChar (c.toNat / 16), Nat.digitChar (c.toNat % 16)]
      else [c]

def printText (text : String) : String :=
  String.ofList ('"' :: text.toList.flatMap escaped ++ ['"'])

mutual

def print : Json → String
  | .null => "null"
  | .bool true => "true"
  | .bool false => "false"
  | .number value => value.text
  | .string value => printText value
  | .array items => "[" ++ ",".intercalate (printItems items) ++ "]"
  | .object entries => "\x7b" ++ ",".intercalate (printEntries entries) ++ "\x7d"

def printItems : List Json → List String
  | [] => []
  | item :: rest => print item :: printItems rest

def printEntries : List (String × Json) → List String
  | [] => []
  | (key, value) :: rest => (printText key ++ ":" ++ print value) :: printEntries rest

end

end Cqrs.Json
