/-
# Number.Numeral -- numbers as they are spelled

A numeral is an integer or a binary64 number.  Strict equality keeps the two apart;
`toBinary64` is where they meet.
-/
import Cqrs.Number.Shortest

namespace Cqrs.Number

set_option autoImplicit false

/-- A number as it is spelled. -/
inductive Numeral where
  | integer (value : Int)
  | float (value : Finite64)
deriving DecidableEq

namespace Numeral

def toBinary64 : Numeral → Binary64
  | .integer value => .ofInt value
  | .float value => .finite value

/-- Strict equality: an integer is no binary64 number. -/
def same : Numeral → Numeral → Bool
  | .integer a, .integer b => a == b
  | .float a, .float b => a.same b
  | _, _ => false

def text : Numeral → String
  | .integer value => toString value
  | .float value => value.text

end Numeral

end Cqrs.Number
