/-
# Proofs.Filter.Criterion -- which criteria there are, and when a projection meets one

A criterion is made of a field that may be filtered by and of a value in the shape of its operator
(`Criterion.make_eq_ok_iff`, and for each shape `make_scalar_iff`, `make_set_iff`,
`make_range_iff`).  `Meets` says of a projection that such a criterion can be made and that the
projection meets it.  The value of the field is there then and not null (`Exposes`), and the rest
is what the operator says of the two values (`meets_scalar_iff`, `meets_set_iff`,
`meets_range_iff`).
-/
import Cqrs.Filter.Criterion
import Cqrs.Proofs.Filter.Comparison

namespace Cqrs.Filter

set_option autoImplicit false

/-! ## Making -/

namespace CriterionValue

variable {operator : Operator} {value : Json} {shaped : CriterionValue}

/-- An operator that takes neither a range nor a set takes a scalar. -/
theorem make_scalar_iff (single : operator ≠ .between ∧ operator ≠ .isIn) :
    make operator value = .ok shaped ↔ value.isScalar = true ∧ shaped = .scalar value := by
  unfold make
  split
  · exact absurd rfl single.1
  · exact absurd rfl single.1
  · exact absurd rfl single.2
  · exact absurd rfl single.2
  · exact ⟨nofun, nofun⟩
  · exact ⟨nofun, nofun⟩
  · rename_i notArray notObject _ _
    have scalar : value.isScalar = true := by
      cases value with
      | array items => exact (notArray items rfl).elim
      | object entries => exact (notObject entries rfl).elim
      | null | bool | number | string => rfl
    rw [and_iff_right scalar, Except.ok.injEq]
    exact eq_comm

theorem make_set_iff :
    make .isIn value = .ok shaped ↔ ∃ members, value = .array members ∧ shaped = .set members := by
  cases value with
  | array members =>
      constructor
      · rintro ⟨⟩
        exact ⟨members, rfl, rfl⟩
      · rintro ⟨_, ⟨⟩, rfl⟩
        rfl
  | null | bool | number | string | object => exact ⟨nofun, nofun⟩

theorem make_range_iff :
    make .between value = .ok shaped ↔
      ∃ low high, value = .array [low, high] ∧ shaped = .range low high := by
  constructor
  · intro made
    cases value with
    | array items =>
        match items, made with
        | [low, high], rfl => exact ⟨low, high, rfl, rfl⟩
    | null | bool | number | string | object => cases made
  · rintro ⟨low, high, rfl, rfl⟩
    rfl

end CriterionValue

section

variable {π : Type} [Projection π]

theorem Criterion.make_eq_ok_iff {field : String} {operator : Operator} {value : Json}
    {criterion : Criterion π} :
    Criterion.make π field operator value = .ok criterion ↔
      criterion.field = field ∧ criterion.operator = operator ∧
        CriterionValue.make operator value = .ok criterion.value := by
  unfold make
  constructor
  · intro made
    split at made
    · split at made <;> cases made
      rename_i shaped made
      exact ⟨rfl, rfl, made⟩
    · cases made
  · rintro ⟨rfl, rfl, made⟩
    rw [dif_pos criterion.allowed]
    split
    · rename_i shaped other
      cases made.symm.trans other
      rfl
    · rename_i error other
      cases made.symm.trans other

/-- A criterion of the field, the operator and the value can be made. -/
def Accepts (π : Type) [Projection π] (field : String) (operator : Operator) (value : Json) :
    Prop :=
  ∃ criterion, Criterion.make π field operator value = .ok criterion

/-- Such a criterion can be made, and the projection meets it. -/
def Meets (projection : π) (field : String) (operator : Operator) (value : Json) : Prop :=
  ∃ criterion, Criterion.make π field operator value = .ok criterion ∧
    criterion.isMetBy projection = true

/-- The projection has a value other than null under a field that may be filtered by. -/
structure Exposes (projection : π) (field : String) (actual : Json) : Prop where
  allowed : field ∈ Projection.filterable π
  held : Projection.field? projection field = some actual
  present : actual ≠ .null

/-! ## Meeting -/

theorem Criterion.matchesField_iff (criterion : Criterion π) (value : Option Json) :
    criterion.matchesField value = true ↔ ∃ actual, value = some actual ∧ actual ≠ .null ∧
      CriterionValue.admits actual criterion.operator criterion.value = true := by
  unfold matchesField
  split
  · exact ⟨nofun, nofun⟩
  · constructor
    · rintro ⟨⟩
    · rintro ⟨_, ⟨⟩, present, -⟩
      exact absurd rfl present
  · rename_i actual notNull
    constructor
    · intro admitted
      exact ⟨actual, rfl, notNull, admitted⟩
    · rintro ⟨_, ⟨⟩, -, admitted⟩
      exact admitted

variable {projection : π} {field : String} {operator : Operator}

theorem accepts_iff {value : Json} :
    Accepts π field operator value ↔ field ∈ Projection.filterable π ∧
      ∃ shaped, CriterionValue.make operator value = .ok shaped := by
  constructor
  · rintro ⟨criterion, made⟩
    obtain ⟨rfl, -, shaped⟩ := Criterion.make_eq_ok_iff.mp made
    exact ⟨criterion.allowed, _, shaped⟩
  · rintro ⟨allowed, shaped, made⟩
    exact ⟨⟨field, operator, shaped, allowed, CriterionValue.fits_of_make made⟩,
      Criterion.make_eq_ok_iff.mpr ⟨rfl, rfl, made⟩⟩

theorem meets_iff {value : Json} :
    Meets projection field operator value ↔
      ∃ actual, Exposes projection field actual ∧
        ∃ shaped, CriterionValue.make operator value = .ok shaped ∧
          CriterionValue.admits actual operator shaped = true := by
  constructor
  · rintro ⟨criterion, made, met⟩
    obtain ⟨rfl, rfl, shaped⟩ := Criterion.make_eq_ok_iff.mp made
    obtain ⟨actual, held, present, admitted⟩ := (criterion.matchesField_iff _).mp met
    exact ⟨actual, ⟨criterion.allowed, held, present⟩, _, shaped, admitted⟩
  · rintro ⟨actual, exposes, shaped, made, admitted⟩
    obtain ⟨criterion, accepted⟩ := accepts_iff.mpr ⟨exposes.allowed, shaped, made⟩
    refine ⟨criterion, accepted, (criterion.matchesField_iff _).mpr ⟨actual, ?_⟩⟩
    obtain ⟨rfl, rfl, other⟩ := Criterion.make_eq_ok_iff.mp accepted
    cases made.symm.trans other
    exact ⟨exposes.held, exposes.present, admitted⟩

/-- A criterion that could be made is met as `Meets` says. -/
theorem meets_iff_isMetBy {value : Json} {criterion : Criterion π}
    (made : Criterion.make π field operator value = .ok criterion) :
    Meets projection field operator value ↔ criterion.isMetBy projection = true := by
  constructor
  · rintro ⟨other, again, met⟩
    cases made.symm.trans again
    exact met
  · intro met
    exact ⟨criterion, made, met⟩

theorem Exposes.unique {a b : Json} (one : Exposes projection field a)
    (other : Exposes projection field b) : a = b :=
  Option.some.inj (one.held.symm.trans other.held)

section Exposed

variable {actual : Json} (exposes : Exposes projection field actual)

include exposes

/-- With a value exposed, a criterion with a scalar is met as the operator says. -/
theorem meets_scalar_iff (single : operator ≠ .between ∧ operator ≠ .isIn) (value : Json) :
    Meets projection field operator value ↔
      value.isScalar = true ∧ CriterionValue.admits actual operator (.scalar value) = true := by
  rw [meets_iff]
  constructor
  · rintro ⟨other, exposed, shaped, made, admitted⟩
    obtain rfl := exposes.unique exposed
    obtain ⟨scalar, rfl⟩ := (CriterionValue.make_scalar_iff single).mp made
    exact ⟨scalar, admitted⟩
  · rintro ⟨scalar, admitted⟩
    exact ⟨actual, exposes, _, (CriterionValue.make_scalar_iff single).mpr ⟨scalar, rfl⟩,
      admitted⟩

theorem meets_set_iff (members : List Json) :
    Meets projection field .isIn (.array members) ↔ members.any (·.same actual) = true := by
  rw [meets_iff]
  constructor
  · rintro ⟨other, exposed, shaped, made, admitted⟩
    obtain rfl := exposes.unique exposed
    obtain ⟨_, ⟨⟩, rfl⟩ := CriterionValue.make_set_iff.mp made
    exact admitted
  · intro admitted
    exact ⟨actual, exposes, _, CriterionValue.make_set_iff.mpr ⟨members, rfl, rfl⟩, admitted⟩

theorem meets_range_iff (low high : Json) :
    Meets projection field .between (.array [low, high]) ↔
      (order? actual low).any (·.isGE) = true ∧ (order? actual high).any (·.isLE) = true := by
  rw [meets_iff, ← Bool.and_eq_true]
  constructor
  · rintro ⟨other, exposed, shaped, made, admitted⟩
    obtain rfl := exposes.unique exposed
    obtain ⟨_, _, ⟨⟩, rfl⟩ := CriterionValue.make_range_iff.mp made
    exact admitted
  · intro admitted
    exact ⟨actual, exposes, _, CriterionValue.make_range_iff.mpr ⟨low, high, rfl, rfl⟩, admitted⟩

end Exposed

end

end Cqrs.Filter
