/-
# Proofs.Filter.Comparison -- how equality and order of JSON values go together

Equality and order are read off two values separately, each with its own coercions.  Where a side
is a number, or both are texts, equality is one of the outcomes of the order
(`looselyEqual_of_isNumber`, `looselyEqual_string`).  So between a value that is there and is no
truth value, and a scalar that is no truth value either, the order decides everything
(`looselyEqual_eq_order?`).  Truth values are never ordered (`order?_of_isBool`), and a scalar that
is strictly equal to a value is equal to it (`looselyEqual_of_same`).
-/
import Cqrs.Filter.Comparison
import Cqrs.Proofs.Number.Rounding

namespace Cqrs

set_option autoImplicit false

def Json.isScalar : Json → Bool
  | .array _ | .object _ => false
  | _ => true

namespace Number

/-- Any number but NaN is equal to itself. -/
theorem Binary64.equals_self {x : Binary64} (known : x ≠ .nan) : x.equals x = true := by
  cases x with
  | nan => exact absurd rfl known
  | infinite | finite => exact equals_of_place? rfl rfl

theorem Numeral.toBinary64_ne_nan (value : Numeral) : value.toBinary64 ≠ .nan := by
  cases value with
  | integer n =>
      simp only [toBinary64, Binary64.ofInt, Binary64.ofRatio, Binary64.ofUnits]
      split <;> exact nofun
  | float x => exact nofun

/-- Numerals that are strictly equal are equal as binary64 numbers, also the two zeros. -/
theorem Numeral.equals_of_same {a b : Numeral} (same : a.same b = true) :
    b.toBinary64.equals a.toBinary64 = true := by
  cases a with
  | integer n =>
      cases b with
      | integer m =>
          obtain rfl : n = m := by simpa [Numeral.same] using same
          exact Binary64.equals_self (toBinary64_ne_nan _)
      | float y => cases same
  | float x =>
      cases b with
      | integer m => cases same
      | float y =>
          have units : x.signedUnits = y.signedUnits := by
            simpa [Numeral.same, Finite64.same] using same
          exact Binary64.equals_of_place? rfl (congrArg some units)

end Number

namespace Filter

open Number (Binary64)

/-- Texts stand at one place only if they are one text. -/
theorem orderText_eq_iff (s t : List Char) : orderText s t = .eq ↔ s = t := by
  induction s generalizing t with
  | nil => cases t <;> simp [orderText]
  | cons c cs ih =>
      cases t with
      | nil => simp [orderText]
      | cons d ds =>
          rw [orderText, Ordering.then_eq_eq, ih, Nat.compare_eq_eq, Char.toNat_inj,
            List.cons.injEq]

theorem order?_of_isNumber {a b : Json} (number : (isNumber a || isNumber b) = true) :
    order? a b =
      match asNumber? a, asNumber? b with
      | some x, some y => x.compare? y
      | _, _ => none := by
  unfold order?
  split
  · cases number
  · exact if_pos number

/-- Where a side is a number, values are equal if neither comes first. -/
theorem looselyEqual_of_isNumber {a b : Json} (first : isBool a = false) (second : isBool b = false)
    (number : (isNumber a || isNumber b) = true) :
    looselyEqual a b = (order? a b == some .eq) := by
  have unbool : ¬(isBool a || isBool b) = true := by simp [first, second]
  rw [order?_of_isNumber number, looselyEqual, if_neg unbool, if_pos number]
  cases asNumber? a <;> cases asNumber? b <;> rfl

/-- Texts are equal if neither comes first. -/
theorem looselyEqual_string (s t : String) :
    looselyEqual (.string s) (.string t) = (order? (.string s) (.string t) == some .eq) := by
  have same : (s == t) = (orderText s.toList t.toList == .eq) := by
    rw [Bool.eq_iff_iff, beq_iff_eq, beq_iff_eq, orderText_eq_iff, String.toList_inj]
  exact same

/-- **The order decides on equality**, where a value that is there is held against a scalar and
neither is a truth value. -/
theorem looselyEqual_eq_order? {a b : Json} (present : a ≠ .null) (scalar : b.isScalar = true)
    (first : isBool a = false) (second : isBool b = false) :
    looselyEqual a b = (order? a b == some .eq) := by
  by_cases number : (isNumber a || isNumber b) = true
  · exact looselyEqual_of_isNumber first second number
  · cases a with
    | null => exact absurd rfl present
    | bool => cases first
    | number => exact absurd rfl number
    | string s =>
        cases b with
        | string t => exact looselyEqual_string s t
        | null => rfl
        | bool => cases second
        | number => exact absurd rfl number
        | array | object => cases scalar
    | array | object =>
        cases b with
        | string | null => rfl
        | bool => cases second
        | number => exact absurd rfl number
        | array | object => cases scalar

/-- What is neither a text nor counts as a number is not ordered. -/
theorem order?_eq_none {a b : Json} (missing : asNumber? a = none ∨ asNumber? b = none)
    (texts : ∀ s t, a = .string s → b ≠ .string t) : order? a b = none := by
  unfold order?
  split
  · exact absurd rfl (texts _ _ rfl)
  · split
    · rcases missing with left | right
      · rw [left]
      · rw [right]
        cases asNumber? a <;> rfl
    · rfl

/-- Truth values are not ordered. -/
theorem order?_of_isBool {a b : Json} (bool : isBool a = true ∨ isBool b = true) :
    order? a b = none := by
  rcases bool with first | second
  · cases a with
    | bool => exact order?_eq_none (Or.inl rfl) nofun
    | null | number | string | array | object => cases first
  · cases b with
    | bool => exact order?_eq_none (Or.inr rfl) nofun
    | null | number | string | array | object => cases second

/-- No value is ordered against an array or an object. -/
theorem order?_of_not_isScalar (a : Json) {b : Json} (compound : b.isScalar = false) :
    order? a b = none := by
  cases b with
  | array | object => exact order?_eq_none (Or.inr rfl) nofun
  | null | bool | number | string => cases compound

/-- A scalar that is strictly equal to a value is equal to it. -/
theorem looselyEqual_of_same {a b : Json} (scalar : b.isScalar = true) (same : b.same a = true) :
    looselyEqual a b = true := by
  cases b with
  | null => cases a <;> first | rfl | cases same
  | bool y =>
      cases a with
      | bool x =>
          obtain rfl : y = x := by simpa [Json.same] using same
          simp [looselyEqual, isBool, truth?]
      | null | number | string | array | object => cases same
  | number y =>
      cases a with
      | number x => exact Number.Numeral.equals_of_same same
      | null | bool | string | array | object => cases same
  | string t =>
      cases a with
      | string s =>
          obtain rfl : t = s := by simpa [Json.same] using same
          exact same
      | null | bool | number | array | object => cases same
  | array | object => cases scalar

end Filter

end Cqrs
