/-
# Number.Base -- numbers in other bases than ten

A number in base sixteen, eight or two begins with a zero and a letter that tells the base.
-/

namespace Cqrs.Number

set_option autoImplicit false

def hexDigit? (c : Char) : Option Nat :=
  if c.isDigit then some (c.toNat - '0'.toNat)
  else if 'a' ≤ c ∧ c ≤ 'f' then some (c.toNat - 'a'.toNat + 10)
  else if 'A' ≤ c ∧ c ≤ 'F' then some (c.toNat - 'A'.toNat + 10)
  else none

/-- The number that digits spell in a base up to sixteen, highest first. -/
def ofDigits? (base : Nat) (digits : List Char) : Option Nat :=
  (digits.mapM hexDigit?).bind fun values =>
    if values.all (· < base) then some (values.foldl (fun n digit => base * n + digit) 0)
    else none

def ofHexDigits? (digits : List Char) : Option Nat :=
  ofDigits? 16 digits

/-- The base of the number that a text begins with, and the text after what tells it. -/
def splitBase (text : List Char) : Nat × List Char :=
  match text with
  | '0' :: 'x' :: rest => (16, rest)
  | '0' :: 'o' :: rest => (8, rest)
  | '0' :: 'b' :: rest => (2, rest)
  | text => (10, text)

end Cqrs.Number
