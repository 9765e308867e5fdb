/-
# Proofs.Filter.Shape -- the shapes of criteria, and what becomes of them

An operator takes some values only (`Operator.Takes`), and a value that it takes comes into one
shape (`Shaped`).  A criterion is made of just these (`Criterion.make_ok_iff`), and what is refused
is refused for its field first and for its value then (`Criterion.make_error_iff`).

The evaluator of criteria has a rule for some pairs of an operator and a shape (`rule?`), and
answers no for all others (`admits_eq_rule?`).  With the shapes that there are, the one operator
that can be left without a rule is `like` (`rule?_eq_none_iff`).
-/
import Cqrs.Proofs.Filter.Criterion

namespace Cqrs.Filter

set_option autoImplicit false

/-! ## Shapes -/

/-- The operator takes the value: two bounds, an array, or what is neither array nor object. -/
def Operator.Takes : Operator → Json → Prop
  | .between, value => ∃ low high, value = .array [low, high]
  | .isIn, value => ∃ members, value = .array members
  | _, value => value.isScalar = true

/-- The shape that a value has for an operator. -/
inductive Shaped : Operator → Json → CriterionValue → Prop
  | range (low high : Json) : Shaped .between (.array [low, high]) (.range low high)
  | set (members : List Json) : Shaped .isIn (.array members) (.set members)
  | scalar {operator : Operator} {value : Json} (single : operator ≠ .between ∧ operator ≠ .isIn)
      (scalar : value.isScalar = true) : Shaped operator value (.scalar value)

/-- Why an operator refuses the values that it does not take. -/
def Operator.shapeError : Operator → AppError
  | .between => .validation "operator between requires value to be an array of two elements"
  | .isIn => .validation "operator in requires value to be an array"
  | operator => .validation ("operator " ++ operator.name ++ " requires a scalar value")

theorem Operator.shapeError_of_single {operator : Operator}
    (single : operator ≠ .between ∧ operator ≠ .isIn) :
    operator.shapeError =
      .validation ("operator " ++ operator.name ++ " requires a scalar value") := by
  cases operator with
  | between => exact absurd rfl single.1
  | isIn => exact absurd rfl single.2
  | eq | neq | gt | gte | lt | lte | like => rfl

/-- The error of a field that criteria may not name. -/
def unknownField (π : Type) [Projection π] (field : String) : AppError :=
  .validation ("invalid field \"" ++ field ++ "\"; allowed: " ++
    ", ".intercalate (Projection.filterable π))

namespace CriterionValue

variable {operator : Operator} {value : Json} {shaped : CriterionValue}

theorem make_ok_iff : make operator value = .ok shaped ↔ Shaped operator value shaped := by
  constructor
  · intro made
    by_cases between : operator = .between
    · subst between
      obtain ⟨low, high, rfl, rfl⟩ := make_range_iff.mp made
      exact .range low high
    by_cases isIn : operator = .isIn
    · subst isIn
      obtain ⟨members, rfl, rfl⟩ := make_set_iff.mp made
      exact .set members
    obtain ⟨scalar, rfl⟩ := (make_scalar_iff ⟨between, isIn⟩).mp made
    exact .scalar ⟨between, isIn⟩ scalar
  · intro shaped
    cases shaped with
    | range | set => rfl
    | scalar single scalar => exact (make_scalar_iff single).mpr ⟨scalar, rfl⟩

/-- An operator takes the values that have a shape for it. -/
theorem takes_iff : operator.Takes value ↔ ∃ shaped, Shaped operator value shaped := by
  constructor
  · intro takes
    cases operator with
    | between =>
        obtain ⟨low, high, rfl⟩ := takes
        exact ⟨_, .range low high⟩
    | isIn =>
        obtain ⟨members, rfl⟩ := takes
        exact ⟨_, .set members⟩
    | eq | neq | gt | gte | lt | lte | like => exact ⟨_, .scalar ⟨nofun, nofun⟩ takes⟩
  · rintro ⟨_, shaped⟩
    cases shaped with
    | range low high => exact ⟨low, high, rfl⟩
    | set members => exact ⟨members, rfl⟩
    | scalar single scalar =>
        cases operator with
        | between => exact absurd rfl single.1
        | isIn => exact absurd rfl single.2
        | eq | neq | gt | gte | lt | lte | like => exact scalar

theorem eq_shapeError_of_make {error : AppError} (refused : make operator value = .error error) :
    error = operator.shapeError := by
  unfold make at refused
  split at refused <;> cases refused
  · rfl
  · rfl
  · rename_i notBetween notIn
    exact (Operator.shapeError_of_single ⟨notBetween, notIn⟩).symm
  · rename_i notBetween notIn
    exact (Operator.shapeError_of_single ⟨notBetween, notIn⟩).symm

theorem make_error_iff {error : AppError} :
    make operator value = .error error ↔ ¬operator.Takes value ∧ error = operator.shapeError := by
  rw [takes_iff]
  cases made : make operator value with
  | ok shaped => exact iff_of_false nofun fun refused => refused.1 ⟨shaped, make_ok_iff.mp made⟩
  | error failure =>
      have none : ¬∃ shaped, Shaped operator value shaped := by
        rintro ⟨shaped, shapes⟩
        cases made.symm.trans (make_ok_iff.mpr shapes)
      rw [and_iff_right none, eq_shapeError_of_make made, Except.error.injEq]
      exact eq_comm

/-- What fits an operator is the shape of some value for it. -/
theorem exists_shaped {expected : CriterionValue} (fits : expected.fits operator = true) :
    ∃ value, Shaped operator value expected := by
  cases expected with
  | range low high =>
      obtain rfl : operator = .between := by simpa [CriterionValue.fits] using fits
      exact ⟨_, .range low high⟩
  | set members =>
      obtain rfl : operator = .isIn := by simpa [CriterionValue.fits] using fits
      exact ⟨_, .set members⟩
  | scalar value =>
      cases value with
      | array | object => cases fits
      | null | bool | number | string =>
          exact ⟨_, .scalar (by simpa [CriterionValue.fits] using fits) rfl⟩

end CriterionValue

section

variable {π : Type} [Projection π] {field : String} {operator : Operator} {value : Json}

theorem Criterion.make_ok_iff {criterion : Criterion π} :
    Criterion.make π field operator value = .ok criterion ↔
      field ∈ Projection.filterable π ∧ criterion.field = field ∧ criterion.operator = operator ∧
        Shaped operator value criterion.value := by
  rw [make_eq_ok_iff, CriterionValue.make_ok_iff]
  constructor
  · rintro ⟨rfl, same, shaped⟩
    exact ⟨criterion.allowed, rfl, same, shaped⟩
  · exact And.right

/-- A field that may not be named is refused before the value is looked at. -/
theorem Criterion.make_error_iff {error : AppError} :
    Criterion.make π field operator value = .error error ↔
      field ∉ Projection.filterable π ∧ error = unknownField π field ∨
        field ∈ Projection.filterable π ∧ ¬operator.Takes value ∧ error = operator.shapeError := by
  unfold make
  split
  · rename_i allowed
    rw [← CriterionValue.make_error_iff]
    split
    · rename_i shaped made
      simp [allowed, made]
    · rename_i failure made
      simp [allowed, made]
  · rename_i unknown
    simp [unknown, unknownField, eq_comm]

/-- Every criterion is made of a value. -/
theorem Criterion.exists_make (criterion : Criterion π) :
    ∃ value, Criterion.make π criterion.field criterion.operator value = .ok criterion := by
  obtain ⟨value, shaped⟩ := CriterionValue.exists_shaped criterion.shaped
  exact ⟨value, make_ok_iff.mpr ⟨criterion.allowed, rfl, rfl, shaped⟩⟩

/-! ## Rules -/

/-- The rule by which an operator holds a field against a value of some shape, if it has one. -/
def rule? : Operator → CriterionValue → Option (Json → Bool)
  | .eq, .scalar value => some fun actual => looselyEqual actual value
  | .neq, .scalar value => some fun actual => !looselyEqual actual value
  | .gt, .scalar value => some fun actual => order? actual value == some .gt
  | .gte, .scalar value => some fun actual => (order? actual value).any (·.isGE)
  | .lt, .scalar value => some fun actual => order? actual value == some .lt
  | .lte, .scalar value => some fun actual => (order? actual value).any (·.isLE)
  | .isIn, .set members => some fun actual => members.any (·.same actual)
  | .between, .range low high => some fun actual =>
      (order? actual low).any (·.isGE) && (order? actual high).any (·.isLE)
  | .like, .scalar (.string part) => some fun
      | .string whole => occursInLowercase part whole
      | _ => false
  | _, _ => none

/-- Without a rule the answer is no. -/
theorem admits_eq_rule? (actual : Json) (operator : Operator) (expected : CriterionValue) :
    CriterionValue.admits actual operator expected =
      ((rule? operator expected).map (· actual)).getD false := by
  cases operator <;> cases expected
  case like.scalar value => cases value <;> rfl
  all_goals rfl

/-- Of what fits an operator, only a search for something that is no text is left without a rule. -/
theorem rule?_eq_none_iff {expected : CriterionValue} (fits : expected.fits operator = true) :
    rule? operator expected = none ↔
      operator = .like ∧ ∃ value, expected = .scalar value ∧ ∀ text, value ≠ .string text := by
  obtain ⟨value, shaped⟩ := CriterionValue.exists_shaped fits
  cases shaped with
  | range | set => exact iff_of_false nofun fun both => nomatch both.1
  | scalar single scalar =>
      cases operator with
      | between => exact absurd rfl single.1
      | isIn => exact absurd rfl single.2
      | eq | neq | gt | gte | lt | lte => exact iff_of_false nofun fun both => nomatch both.1
      | like =>
          cases value with
          | string text =>
              refine iff_of_false nofun ?_
              rintro ⟨-, _, ⟨⟩, apart⟩
              exact apart text rfl
          | null | bool | number | array | object => exact iff_of_true rfl ⟨rfl, _, rfl, nofun⟩

/-- A criterion is met where its rule says so of the value of its field. -/
theorem Criterion.isMetBy_iff_rule? (criterion : Criterion π) (projection : π) :
    criterion.isMetBy projection = true ↔
      ∃ actual, Projection.field? projection criterion.field = some actual ∧ actual ≠ .null ∧
        ∃ rule, rule? criterion.operator criterion.value = some rule ∧ rule actual = true := by
  rw [isMetBy, matchesField_iff]
  simp only [admits_eq_rule?]
  cases rule? criterion.operator criterion.value <;> simp

/-- The evaluator comes to a value that is there, and has no rule for the criterion. -/
def Criterion.Unruled (criterion : Criterion π) (projection : π) : Prop :=
  ∃ actual, Projection.field? projection criterion.field = some actual ∧ actual ≠ .null ∧
    rule? criterion.operator criterion.value = none

end

/-- **Shapes are enforced, and are all that the evaluator sees.**  A criterion is made just if its
field may be named and its operator takes the value: two bounds for a range, an array for a set, and
neither array nor object for the others.  Its value is then these bounds, these members or this
scalar.  A field that may not be named is refused before a value that is not taken.  All criteria
there are come about like this, each is met just where a rule of the evaluator says so, and the
evaluator is left without a rule only for `like` with something that is no text. -/
theorem shapes_enforced (π : Type) [Projection π] :
    (∀ field operator value,
      ((∃ criterion, Criterion.make π field operator value = .ok criterion) ↔
        field ∈ Projection.filterable π ∧ operator.Takes value) ∧
      (∀ criterion, Criterion.make π field operator value = .ok criterion ↔
        field ∈ Projection.filterable π ∧ criterion.field = field ∧
          criterion.operator = operator ∧ Shaped operator value criterion.value) ∧
      ∀ error, Criterion.make π field operator value = .error error ↔
        field ∉ Projection.filterable π ∧ error = unknownField π field ∨
          field ∈ Projection.filterable π ∧ ¬operator.Takes value ∧ error = operator.shapeError) ∧
    ∀ criterion : Criterion π,
      (∃ value, Criterion.make π criterion.field criterion.operator value = .ok criterion) ∧
      ∀ projection,
        (criterion.isMetBy projection = true ↔
          ∃ actual, Projection.field? projection criterion.field = some actual ∧ actual ≠ .null ∧
            ∃ rule, rule? criterion.operator criterion.value = some rule ∧ rule actual = true) ∧
        (criterion.Unruled projection ↔
          (criterion.operator = .like ∧
            ∃ value, criterion.value = .scalar value ∧ ∀ text, value ≠ .string text) ∧
          ∃ actual, Projection.field? projection criterion.field = some actual ∧
            actual ≠ .null) := by
  refine ⟨fun field operator value => ⟨?_, fun criterion => Criterion.make_ok_iff,
    fun error => Criterion.make_error_iff⟩, fun criterion => ⟨criterion.exists_make,
    fun projection => ⟨criterion.isMetBy_iff_rule? projection, ?_⟩⟩⟩
  · refine accepts_iff.trans (and_congr_right fun _ => ?_)
    simp only [CriterionValue.make_ok_iff, CriterionValue.takes_iff]
  · rw [← rule?_eq_none_iff criterion.shaped]
    constructor
    · rintro ⟨actual, held, present, none⟩
      exact ⟨none, actual, held, present⟩
    · rintro ⟨none, actual, held, present⟩
      exact ⟨actual, held, present, none⟩

end Cqrs.Filter
