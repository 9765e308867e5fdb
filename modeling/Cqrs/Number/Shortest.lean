/-
# Number.Shortest -- the shortest decimal of a binary64 number

`shortest` finds, for a positive binary64 number, the coarsest decimal grid with a
point that reads back as the number, and the point of it nearest to the number.
`Finite64.text` lays the digits out: positionally from `1e-5` up to `1e+16`, with a
signed exponent elsewhere, and never without a point or an exponent.
-/
import Cqrs.Number.Binary64

namespace Cqrs.Number

set_option autoImplicit false

/-- The reals that round to a positive number, between two bounds in quarters of a
unit; the bounds themselves belong to it when the number's last bit is zero. -/
structure RoundingInterval where
  lower : Nat
  upper : Nat
  closed : Bool
deriving DecidableEq, Repr

namespace RoundingInterval

/-- The interval of a number's magnitude.  Below a power of two the neighbours
stand half as far apart. -/
def ofUnits (units : Nat) : RoundingInterval :=
  let step := spacing units
  let below := if 1 < step && units == Nat.pow 2 units.log2 then step else 2 * step
  ⟨4 * units - below, 4 * units + 2 * step, (units / step) % 2 == 0⟩

/-- The quotient, in quarters of a unit, lies in the interval. -/
def holds (interval : RoundingInterval) (num den : Nat) : Bool :=
  if interval.closed then interval.lower * den ≤ num && num ≤ interval.upper * den
  else interval.lower * den < num && num < interval.upper * den

end RoundingInterval

/-- The multiple of `10 ^ power` nearest to a magnitude among those that read back as
it, counted in that power. -/
def gridPoint? (units : Nat) (power : Int) : Option Nat :=
  let scale := 4 * unitsPerOne
  -- `count * 10 ^ power` is `count * num / den` quarters of a unit
  let (num, den) :=
    if 0 ≤ power then (scale * Nat.pow 10 power.toNat, 1)
    else (scale, Nat.pow 10 (-power).toNat)
  let quarters := 4 * units * den
  let below := quarters / num
  let interval := RoundingInterval.ofUnits units
  let hitBelow := interval.holds (below * num) den
  let hitAbove := interval.holds ((below + 1) * num) den
  if hitBelow && hitAbove then
    let toBelow := quarters - below * num
    let toAbove := (below + 1) * num - quarters
    some (if toBelow < toAbove || (toBelow == toAbove && below % 2 == 0) then below
      else below + 1)
  else if hitBelow then some below
  else if hitAbove then some (below + 1)
  else none

/-- Looks for a point on ever finer grids. -/
def firstGridPoint (units : Nat) : Nat → Int → Nat × Int
  | 0, power => (0, power)
  | tries + 1, power =>
      match gridPoint? units power with
      | some count => (count, power)
      | none => firstGridPoint units tries (power - 1)

/-- A power of ten above the magnitude, near it. -/
def topPower (units : Nat) : Int :=
  if unitsPerOne ≤ units then (Nat.toDigits 10 (units / unitsPerOne)).length
  else 1 - ((Nat.toDigits 10 (unitsPerOne / units)).length : Int)

/-- Digits and power of ten of the shortest decimal for a positive magnitude. -/
def shortest (units : Nat) : Nat × Int :=
  firstGridPoint units 25 (topPower units)

/-- Lays out `count · 10 ^ power`. -/
def decimalText (count : Nat) (power : Int) : List Char :=
  let digits := Nat.toDigits 10 count
  -- the place of the point, counted from the first digit
  let point : Int := digits.length + power
  if 0 ≤ power ∧ point ≤ 16 then
    digits ++ List.replicate power.toNat '0' ++ ['.', '0']
  else if 0 < point ∧ point ≤ 16 then
    digits.take point.toNat ++ ['.'] ++ digits.drop point.toNat
  else if -5 < point ∧ point ≤ 0 then
    ['0', '.'] ++ List.replicate (-point).toNat '0' ++ digits
  else
    let exponent := (if 0 < point then '+' else '-') :: Nat.toDigits 10 (point - 1).natAbs
    match digits with
    | [digit] => digit :: 'e' :: exponent
    | first :: rest => first :: '.' :: rest ++ 'e' :: exponent
    | [] => []

namespace Finite64

def text (x : Finite64) : String :=
  let magnitude :=
    if x.units = 0 then ['0', '.', '0']
    else
      let (count, power) := shortest x.units
      decimalText count power
  String.ofList (if x.negative then '-' :: magnitude else magnitude)

end Finite64

end Cqrs.Number
