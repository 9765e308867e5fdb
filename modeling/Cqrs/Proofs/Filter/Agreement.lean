/-
# Proofs.Filter.Agreement -- the operators of a criterion agree with one another

Each operator is a reading of its own of two values, and the readings fit together: `neq` is the
opposite of `eq`, the orders with equality are the strict orders or `eq`, a range is two orders at
once, and a set is its members one by one.  `Comparing` says what the five operators that compare
come to where no truth value is about: they are the outcomes of one order.
-/
import Cqrs.Proofs.Filter.Criterion

namespace Cqrs.Filter

set_option autoImplicit false

variable {π : Type} [Projection π] {projection : π} {field : String}

/-- What meets a criterion is exposed. -/
theorem Meets.exposes {operator : Operator} {value : Json}
    (meets : Meets projection field operator value) :
    ∃ actual, Exposes projection field actual := by
  obtain ⟨actual, exposes, -⟩ := meets_iff.mp meets
  exact ⟨actual, exposes⟩

/-- How a field is held against a value by the operators that compare: by one order. -/
structure Comparing (projection : π) (field : String) (value : Json)
    (order : Option Ordering) : Prop where
  eq_iff : Meets projection field .eq value ↔ order = some .eq
  gt_iff : Meets projection field .gt value ↔ order = some .gt
  lt_iff : Meets projection field .lt value ↔ order = some .lt
  gte_iff : Meets projection field .gte value ↔ order = some .gt ∨ order = some .eq
  lte_iff : Meets projection field .lte value ↔ order = some .lt ∨ order = some .eq

theorem any_isGE_iff (order : Option Ordering) :
    order.any (·.isGE) = true ↔ order = some .gt ∨ order = some .eq := by
  rcases order with _ | order
  · simp
  · cases order <;> simp

theorem any_isLE_iff (order : Option Ordering) :
    order.any (·.isLE) = true ↔ order = some .lt ∨ order = some .eq := by
  rcases order with _ | order
  · simp
  · cases order <;> simp

section Exposed

variable {actual : Json} (exposes : Exposes projection field actual)

include exposes

theorem Exposes.gte_iff {value : Json} (scalar : value.isScalar = true) :
    Meets projection field .gte value ↔ (order? actual value).any (·.isGE) = true :=
  (meets_scalar_iff exposes (by decide) value).trans (and_iff_right scalar)

theorem Exposes.lte_iff {value : Json} (scalar : value.isScalar = true) :
    Meets projection field .lte value ↔ (order? actual value).any (·.isLE) = true :=
  (meets_scalar_iff exposes (by decide) value).trans (and_iff_right scalar)

/-- Where no truth value is about, one order decides. -/
theorem Exposes.comparing {value : Json} (first : isBool actual = false)
    (scalar : value.isScalar = true) (second : isBool value = false) :
    Comparing projection field value (order? actual value) where
  eq_iff := by
    rw [meets_scalar_iff exposes (by decide) value, and_iff_right scalar, CriterionValue.admits,
      looselyEqual_eq_order? exposes.present scalar first second, beq_iff_eq]
  gt_iff := by
    rw [meets_scalar_iff exposes (by decide) value, and_iff_right scalar, CriterionValue.admits,
      beq_iff_eq]
  lt_iff := by
    rw [meets_scalar_iff exposes (by decide) value, and_iff_right scalar, CriterionValue.admits,
      beq_iff_eq]
  gte_iff := (exposes.gte_iff scalar).trans (any_isGE_iff _)
  lte_iff := (exposes.lte_iff scalar).trans (any_isLE_iff _)

theorem Exposes.neq_iff {value : Json} (accepts : Accepts π field .eq value) :
    Meets projection field .neq value ↔ ¬Meets projection field .eq value := by
  obtain ⟨-, shaped, made⟩ := accepts_iff.mp accepts
  obtain ⟨scalar, -⟩ := (CriterionValue.make_scalar_iff (by decide)).mp made
  rw [meets_scalar_iff exposes (by decide) value, meets_scalar_iff exposes (by decide) value,
    and_iff_right scalar, and_iff_right scalar]
  simp only [CriterionValue.admits, Bool.not_eq_true', Bool.not_eq_true]

/-- No truth value is ordered, on either side. -/
theorem Exposes.unordered {value : Json} {operator : Operator}
    (bool : isBool actual = true ∨ isBool value = true)
    (orders : operator ∈ [Operator.gt, .gte, .lt, .lte]) :
    ¬Meets projection field operator value := by
  intro meets
  have unordered := order?_of_isBool bool
  simp only [List.mem_cons, List.not_mem_nil, or_false] at orders
  rcases orders with rfl | rfl | rfl | rfl
  all_goals
    obtain ⟨-, admitted⟩ := (meets_scalar_iff exposes (by decide) value).mp meets
    simp [CriterionValue.admits, unordered] at admitted

/-- A range is two orders at once. -/
theorem Exposes.between_iff {low high : Json} (scalarLow : low.isScalar = true)
    (scalarHigh : high.isScalar = true) :
    Meets projection field .between (.array [low, high]) ↔
      Meets projection field .gte low ∧ Meets projection field .lte high := by
  rw [meets_range_iff exposes, exposes.gte_iff scalarLow, exposes.lte_iff scalarHigh]

/-- A range that ends in an array or an object holds nothing. -/
theorem Exposes.not_between {low high : Json}
    (compound : low.isScalar = false ∨ high.isScalar = false) :
    ¬Meets projection field .between (.array [low, high]) := by
  rw [meets_range_iff exposes]
  rintro ⟨above, below⟩
  rcases compound with left | right
  · rw [order?_of_not_isScalar actual left] at above
    cases above
  · rw [order?_of_not_isScalar actual right] at below
    cases below

/-- A set is its members one by one. -/
theorem Exposes.isIn_iff (members : List Json) :
    Meets projection field .isIn (.array members) ↔
      ∃ member ∈ members, Meets projection field .isIn (.array [member]) := by
  rw [meets_set_iff exposes, List.any_eq_true]
  refine exists_congr fun member => and_congr_right fun _ => ?_
  rw [meets_set_iff exposes, List.any_cons, List.any_nil, Bool.or_false]

/-- What is strictly equal is equal. -/
theorem Exposes.eq_of_isIn {value : Json} (scalar : value.isScalar = true)
    (listed : Meets projection field .isIn (.array [value])) :
    Meets projection field .eq value := by
  rw [meets_set_iff exposes, List.any_cons, List.any_nil, Bool.or_false] at listed
  exact (meets_scalar_iff exposes (by decide) value).mpr
    ⟨scalar, looselyEqual_of_same scalar listed⟩

end Exposed

/-- **The operators agree with one another.**  A field that is missing or null meets nothing, and on
any other one `neq` is the opposite of `eq`.  Where no truth value is about, equality and the strict
orders exclude one another, and each of the other two orders is one of them or equality; a truth
value is not ordered at all.  A range with scalars for its ends is two orders at once, and nothing
meets one that ends in an array or an object.  A set is met where one of its members alone is, and
what a scalar alone is met by as a set is equal to it. -/
theorem operators_agree (projection : π) (field : String) :
    (∀ operator value, Projection.field? projection field = none ∨
        Projection.field? projection field = some .null →
      ¬Meets projection field operator value) ∧
    (∀ actual value, Projection.field? projection field = some actual → actual ≠ .null →
      Accepts π field .eq value →
      (Meets projection field .neq value ↔ ¬Meets projection field .eq value)) ∧
    (∀ actual value, Projection.field? projection field = some actual →
      isBool actual = false → value.isScalar = true → isBool value = false →
      ¬(Meets projection field .lt value ∧ Meets projection field .eq value) ∧
      ¬(Meets projection field .lt value ∧ Meets projection field .gt value) ∧
      ¬(Meets projection field .eq value ∧ Meets projection field .gt value) ∧
      (Meets projection field .gte value ↔
        Meets projection field .gt value ∨ Meets projection field .eq value) ∧
      (Meets projection field .lte value ↔
        Meets projection field .lt value ∨ Meets projection field .eq value)) ∧
    (∀ actual value, Projection.field? projection field = some actual →
      isBool actual = true ∨ isBool value = true →
      ∀ operator ∈ [Operator.gt, .gte, .lt, .lte], ¬Meets projection field operator value) ∧
    (∀ low high, low.isScalar = true → high.isScalar = true →
      (Meets projection field .between (.array [low, high]) ↔
        Meets projection field .gte low ∧ Meets projection field .lte high)) ∧
    (∀ low high, low.isScalar = false ∨ high.isScalar = false →
      ¬Meets projection field .between (.array [low, high])) ∧
    (∀ members, Meets projection field .isIn (.array members) ↔
      ∃ member ∈ members, Meets projection field .isIn (.array [member])) ∧
    (∀ value, value.isScalar = true → Meets projection field .isIn (.array [value]) →
      Meets projection field .eq value) := by
  by_cases exposed : ∃ actual, Exposes projection field actual
  · obtain ⟨actual, exposes⟩ := exposed
    have only : ∀ {other}, Projection.field? projection field = some other → other = actual :=
      fun held => Option.some.inj (held.symm.trans exposes.held)
    refine ⟨?_, ?_, ?_, ?_, fun _ _ => exposes.between_iff, fun _ _ => exposes.not_between,
      exposes.isIn_iff, fun _ => exposes.eq_of_isIn⟩
    · rintro operator value (missing | null) -
      · cases exposes.held.symm.trans missing
      · exact exposes.present (only null).symm
    · intro other value _ _ accepts
      exact exposes.neq_iff accepts
    · intro other value held first scalar second
      obtain rfl := only held
      have comparing := exposes.comparing first scalar second
      rw [comparing.eq_iff, comparing.gt_iff, comparing.lt_iff, comparing.gte_iff,
        comparing.lte_iff]
      refine ⟨?_, ?_, ?_, Iff.rfl, Iff.rfl⟩
      all_goals
        rintro ⟨one, another⟩
        cases one.symm.trans another
    · intro other value held bool operator orders
      obtain rfl := only held
      exact exposes.unordered bool orders
  · have never : ∀ operator value, ¬Meets projection field operator value :=
      fun _ _ meets => exposed meets.exposes
    refine ⟨fun operator value _ => never operator value, ?_, ?_, ?_, ?_, ?_, ?_, ?_⟩
    · intro actual value held present accepts
      exact absurd ⟨actual, (accepts_iff.mp accepts).1, held, present⟩ exposed
    all_goals simp [never]

end Cqrs.Filter
