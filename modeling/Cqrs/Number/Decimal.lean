/-
# Number.Decimal -- decimal texts of numbers

The grammar of a number in a text: an optional sign, then digits with at most one
point and at least one digit, and an optional exponent; or, in any case of the
letters, `inf`, `infinity` or `nan`.  `readBinary64?` gives the nearest binary64
number.
-/
import Cqrs.Number.Binary64

namespace Cqrs.Number

set_option autoImplicit false

/-- The decimal number `± digits · 10 ^ exponent`. -/
structure Decimal where
  negative : Bool
  digits : Nat
  exponent : Int
deriving DecidableEq, Repr

def digitsValue (digits : List Char) : Nat :=
  digits.foldl (fun value c => 10 * value + (c.toNat - '0'.toNat)) 0

/-- Splits a sign off a text; without one the number is not negative. -/
def splitSign : List Char → Bool × List Char
  | '-' :: rest => (true, rest)
  | '+' :: rest => (false, rest)
  | text => (false, text)

/-- The exponent that follows a mantissa: nothing, or a letter and an integer. -/
def exponent? : List Char → Option Int
  | [] => some 0
  | letter :: rest =>
      if letter = 'e' ∨ letter = 'E' then
        let (negative, digits) := splitSign rest
        if digits.isEmpty || !digits.all Char.isDigit then none
        else some (if negative then -(digitsValue digits : Int) else digitsValue digits)
      else none

namespace Decimal

/-- Reads digits with at most one point and an exponent. -/
def readUnsigned? (negative : Bool) (text : List Char) : Option Decimal :=
  let whole := text.takeWhile Char.isDigit
  let rest := text.dropWhile Char.isDigit
  let (fraction, rest) :=
    match rest with
    | '.' :: rest => (rest.takeWhile Char.isDigit, rest.dropWhile Char.isDigit)
    | rest => ([], rest)
  if whole.isEmpty && fraction.isEmpty then none
  else
    (exponent? rest).map fun exponent =>
      ⟨negative, digitsValue (whole ++ fraction), exponent - fraction.length⟩

/-- The binary64 number nearest to a decimal one.  Decimals that are far out of
range are settled by their order of magnitude. -/
def toBinary64 (d : Decimal) : Binary64 :=
  let magnitude : Int := (Nat.toDigits 10 d.digits).length + d.exponent
  if d.digits = 0 ∨ magnitude < -330 then .ofUnits d.negative 0
  else if 330 < magnitude then .infinite d.negative
  else if 0 ≤ d.exponent then .ofRatio d.negative (d.digits * Nat.pow 10 d.exponent.toNat) 1
  else .ofRatio d.negative d.digits (Nat.pow 10 (-d.exponent).toNat)

end Decimal

/-- Reads the names of the numbers that are not finite, in any case of the letters. -/
def readNamed? (negative : Bool) (text : List Char) : Option Binary64 :=
  let name := text.map Char.toLower
  if name = ['i', 'n', 'f'] ∨ name = ['i', 'n', 'f', 'i', 'n', 'i', 't', 'y'] then
    some (.infinite negative)
  else if name = ['n', 'a', 'n'] then some .nan
  else none

def readBinary64? (text : List Char) : Option Binary64 :=
  let (negative, rest) := splitSign text
  match Decimal.readUnsigned? negative rest with
  | some decimal => some decimal.toBinary64
  | none => readNamed? negative rest

end Cqrs.Number
