/-
# Proofs.Filter.Symmetry -- loose comparison does not depend on the order of its sides

Equality looks for a truth value on either side first and for a number on either side then, and the
order looks for two texts first, so that each could treat its sides differently.  It does not: both
read the two sides by the same coercion and compare what they get symmetrically
(`looselyEqual_comm`, `order?_swap`).  Where values are ordered, equality is one of the outcomes
(`looselyEqual_of_order?`), and every value is equal to itself, because no number is NaN
(`looselyEqual_self`).
-/
import Cqrs.Proofs.Filter.Comparison
import Cqrs.Proofs.Json.Equality

namespace Cqrs

set_option autoImplicit false

namespace Number.Binary64

/-- Numbers stand to each other the other way round when their sides are exchanged. -/
theorem compare?_swap (x y : Binary64) : y.compare? x = (x.compare? y).map Ordering.swap := by
  unfold compare?
  cases x.place? with
  | none => cases y.place? <;> rfl
  | some a =>
      cases y.place? with
      | none => rfl
      | some b => exact congrArg some (Int.compare_swap a b).symm

theorem equals_comm (x y : Binary64) : x.equals y = y.equals x := by
  rw [equals, equals, compare?_swap x y]
  rcases x.compare? y with _ | order
  · rfl
  · cases order <;> rfl

end Number.Binary64

namespace Filter

theorem orderText_swap (s t : List Char) : orderText t s = (orderText s t).swap := by
  induction s generalizing t with
  | nil => cases t <;> rfl
  | cons c cs ih =>
      cases t with
      | nil => rfl
      | cons d ds =>
          rw [orderText, orderText, Ordering.swap_then, ih, Nat.compare_swap]

/-- **Equality is symmetric**: each side is read by the coercion that either side calls for. -/
theorem looselyEqual_comm (a b : Json) : looselyEqual a b = looselyEqual b a := by
  unfold looselyEqual
  rw [Bool.or_comm (isBool b), Bool.or_comm (isNumber b)]
  split
  · cases truth? a with
    | none => cases truth? b <;> rfl
    | some x =>
        cases truth? b with
        | none => rfl
        | some y => exact Bool.beq_comm
  · split
    · cases asNumber? a with
      | none => cases asNumber? b <;> rfl
      | some x =>
          cases asNumber? b with
          | none => rfl
          | some y => exact x.equals_comm y
    · exact a.same_comm b

/-- **The order turns round** when its sides are exchanged, and is missing both ways or neither. -/
theorem order?_swap (a b : Json) : order? b a = (order? a b).map Ordering.swap := by
  by_cases number : (isNumber a || isNumber b) = true
  · have exchanged : (isNumber b || isNumber a) = true := by rw [Bool.or_comm, number]
    rw [order?_of_isNumber number, order?_of_isNumber exchanged]
    cases asNumber? a with
    | none => cases asNumber? b <;> rfl
    | some x =>
        cases asNumber? b with
        | none => rfl
        | some y => exact x.compare?_swap y
  · cases a with
    | string s =>
        cases b with
        | string t => exact congrArg some (orderText_swap s.toList t.toList)
        | number => exact absurd rfl number
        | null | bool | array | object => rfl
    | number => exact absurd rfl number
    | null | bool | array | object =>
        cases b with
        | number => exact absurd rfl number
        | null | bool | string | array | object => rfl

/-- Where values are ordered, they are equal if neither comes first. -/
theorem looselyEqual_of_order? {a b : Json} {order : Ordering} (ordered : order? a b = some order) :
    looselyEqual a b = (order == .eq) := by
  have first : isBool a = false := by
    cases bool : isBool a with
    | false => rfl
    | true => cases (order?_of_isBool (.inl bool)).symm.trans ordered
  have second : isBool b = false := by
    cases bool : isBool b with
    | false => rfl
    | true => cases (order?_of_isBool (.inr bool)).symm.trans ordered
  have scalar : b.isScalar = true := by
    cases compound : b.isScalar with
    | true => rfl
    | false => cases (order?_of_not_isScalar a compound).symm.trans ordered
  have present : a ≠ .null := by
    rintro rfl
    have texts : ∀ s t, Json.null = .string s → b ≠ .string t := fun _ _ text => nomatch text
    cases (order?_eq_none (.inl rfl) texts).symm.trans ordered
  rw [looselyEqual_eq_order? present scalar first second, ordered]
  cases order <;> rfl

/-- Every value is equal to itself. -/
theorem looselyEqual_self (a : Json) : looselyEqual a a = true := by
  cases a with
  | bool x => cases x <;> rfl
  | number value => exact Number.Binary64.equals_self value.toBinary64_ne_nan
  | null => rfl
  | string s => exact Json.same_refl (.string s)
  | array items => exact Json.same_refl (.array items)
  | object entries => exact Json.same_refl (.object entries)

/-- **Loose comparison does not depend on the order of its sides.**  Equality is the same both ways,
and the order is the reverse one: missing both ways or neither, with less and greater exchanged and
equal kept.  Where values are ordered, they stand at one place if and only if they are equal, and
every value is equal to itself. -/
theorem comparison_symmetric (a b : Json) :
    looselyEqual a b = looselyEqual b a ∧
    order? b a = (order? a b).map Ordering.swap ∧
    (∀ order, order? a b = some order → (order = .eq ↔ looselyEqual a b = true)) ∧
    looselyEqual a a = true := by
  refine ⟨looselyEqual_comm a b, order?_swap a b, ?_, looselyEqual_self a⟩
  intro order ordered
  rw [looselyEqual_of_order? ordered, beq_iff_eq]

end Filter

end Cqrs
