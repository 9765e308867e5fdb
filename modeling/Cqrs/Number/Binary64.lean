/-
# Number.Binary64 -- binary64 numbers, exactly

A finite binary64 number is a whole count of units of `2 ^ -1074` with a sign, so
that rounding and comparison are integer arithmetic.  `ofRatio` rounds a quotient
to the nearest number, ties to even; `compare?` is the order in which both zeros
are equal and NaN stands beside nothing.
-/

namespace Cqrs.Number

set_option autoImplicit false

/-- Where the magnitudes of the finite numbers end, in units: `2 ^ 1024`. -/
def unitsLimit : Nat := Nat.pow 2 2098

/-- The unit's share of one: `2 ^ 1074` units make one. -/
def unitsPerOne : Nat := Nat.pow 2 1074

structure Finite64 where
  negative : Bool
  units : Nat
  small : units < unitsLimit
deriving DecidableEq

/-- A binary64 number. -/
inductive Binary64 where
  | nan
  | infinite (negative : Bool)
  | finite (number : Finite64)
deriving DecidableEq

/-- The whole number nearest to a quotient, the even one of two. -/
def roundQuotient (num den : Nat) : Nat :=
  let quotient := num / den
  let twice := 2 * (num % den)
  if den < twice || (twice == den && quotient % 2 == 1) then quotient + 1 else quotient

/-- The distance between neighbouring numbers from a magnitude on, in units. -/
def spacing (units : Nat) : Nat :=
  Nat.pow 2 (units.log2 - 52)

/-- The magnitude nearest to a quotient of whole numbers, in units. -/
def roundUnits (num den : Nat) : Nat :=
  let step := spacing (num * unitsPerOne / den)
  roundQuotient (num * unitsPerOne) (den * step) * step

namespace Finite64

/-- The number as a signed count of units; both zeros count zero. -/
def signedUnits (x : Finite64) : Int :=
  if x.negative then -(x.units : Int) else x.units

def isZero (x : Finite64) : Bool :=
  x.units == 0

/-- Equality of the numbers themselves, in which both zeros are one. -/
def same (x y : Finite64) : Bool :=
  x.signedUnits == y.signedUnits

theorem same_refl (x : Finite64) : x.same x = true := by
  simp [same]

theorem same_comm (x y : Finite64) : x.same y = y.same x := by
  simp only [same]
  exact Bool.beq_comm

end Finite64

namespace Binary64

/-- The number with this many units, infinite beyond the finite ones. -/
def ofUnits (negative : Bool) (units : Nat) : Binary64 :=
  if small : units < unitsLimit then .finite ⟨negative, units, small⟩ else .infinite negative

/-- The number nearest to a quotient of whole numbers. -/
def ofRatio (negative : Bool) (num den : Nat) : Binary64 :=
  ofUnits negative (roundUnits num den)

/-- The number nearest to an integer. -/
def ofInt (n : Int) : Binary64 :=
  ofRatio (n < 0) n.natAbs 1

/-- The number's place in the order, the infinities beyond all others; NaN has none. -/
def place? : Binary64 → Option Int
  | .nan => none
  | .infinite negative => some (if negative then -(unitsLimit : Int) else unitsLimit)
  | .finite x => some x.signedUnits

/-- How two numbers stand to each other, if neither is NaN. -/
def compare? (x y : Binary64) : Option Ordering :=
  match x.place?, y.place? with
  | some a, some b => some (compare a b)
  | _, _ => none

/-- The numbers are equal: both zeros are, and NaN is equal to nothing. -/
def equals (x y : Binary64) : Bool :=
  x.compare? y == some .eq

def isZero (x : Binary64) : Bool :=
  x.place? == some 0

end Binary64

end Cqrs.Number
