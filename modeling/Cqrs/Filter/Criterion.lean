/-
# Filter.Criterion -- conditions on the fields of a projection

A criterion holds one field of a projection against a value by an operator.  A value
comes in the shape its operator needs: two bounds for `between`, a set for `in`, and a
value that is neither array nor object for the others.  `Criterion.make` refuses a
field that may not be filtered by and then a value of the wrong shape, and a criterion
holds the proofs that it has passed both tests; `matchesField` is what a criterion says
of a field.
-/
import Cqrs.Filter.Operator
import Cqrs.Filter.Comparison
import Cqrs.Specification

namespace Cqrs.Filter

set_option autoImplicit false

/-- A read model whose fields can be looked at by name. -/
class Projection (π : Type) where
  /-- The fields that criteria may name. -/
  filterable : List String
  /-- The value of a field, if it is exposed. -/
  field? : π → String → Option Json

/-- The value of a criterion, in the shape its operator needs. -/
inductive CriterionValue where
  | scalar (value : Json)
  | set (members : List Json)
  | range (low high : Json)

namespace CriterionValue

/-- The shape and the kinds of the values in it. -/
def shape : CriterionValue → String
  | .scalar value => "scalar:" ++ value.kindName
  | .set members => "set:" ++ toString members.length
  | .range low high => "range:" ++ low.kindName ++ ".." ++ high.kindName

def fits : CriterionValue → Operator → Bool
  | .range _ _, operator => operator == .between
  | .set _, operator => operator == .isIn
  | .scalar (.array _), _ | .scalar (.object _), _ => false
  | .scalar _, operator => !(operator == .between || operator == .isIn)

def outline : CriterionValue → String
  | .scalar value => "Scalar(" ++ value.outline ++ ")"
  | .set members => "Set([" ++ ", ".intercalate (Json.outlineItems members) ++ "])"
  | .range low high => "Range(" ++ low.outline ++ ", " ++ high.outline ++ ")"

/-- Brings a value into the shape that an operator needs. -/
def make (operator : Operator) (value : Json) : Except AppError CriterionValue :=
  match operator, value with
  | .between, .array [low, high] => .ok (.range low high)
  | .between, _ =>
      .error (.validation "operator between requires value to be an array of two elements")
  | .isIn, .array members => .ok (.set members)
  | .isIn, _ => .error (.validation "operator in requires value to be an array")
  | operator, .array _ | operator, .object _ =>
      .error (.validation ("operator " ++ operator.name ++ " requires a scalar value"))
  | _, value => .ok (.scalar value)

theorem fits_of_make {operator : Operator} {json : Json} {value : CriterionValue}
    (made : make operator json = .ok value) : value.fits operator = true := by
  unfold make at made
  split at made <;> cases made
  · rfl
  · rfl
  · next notBetween notIn notArray notObject =>
      cases operator <;> cases json <;> simp_all [fits]

/-- What an operator and a value say of the value of a field. -/
def admits (actual : Json) (operator : Operator) (expected : CriterionValue) : Bool :=
  match operator, expected with
  | .eq, .scalar value => looselyEqual actual value
  | .neq, .scalar value => !looselyEqual actual value
  | .gt, .scalar value => order? actual value == some .gt
  | .gte, .scalar value => (order? actual value).any (·.isGE)
  | .lt, .scalar value => order? actual value == some .lt
  | .lte, .scalar value => (order? actual value).any (·.isLE)
  | .isIn, .set members => members.any (·.same actual)
  | .between, .range low high =>
      (order? actual low).any (·.isGE) && (order? actual high).any (·.isLE)
  | .like, .scalar (.string part) =>
      match actual with
      | .string whole => occursInLowercase part whole
      | _ => false
  | _, _ => false

end CriterionValue

/-- A condition on a field of a projection. -/
structure Criterion (π : Type) [Projection π] where
  field : String
  operator : Operator
  value : CriterionValue
  allowed : field ∈ Projection.filterable π
  shaped : value.fits operator = true

namespace Criterion

variable {π : Type} [Projection π]

/-- Makes a criterion of a field that may be filtered by and a value of the right shape. -/
def make (π : Type) [Projection π] (field : String) (operator : Operator) (value : Json) :
    Except AppError (Criterion π) :=
  if allowed : field ∈ Projection.filterable π then
    match made : CriterionValue.make operator value with
    | .ok value => .ok ⟨field, operator, value, allowed, CriterionValue.fits_of_make made⟩
    | .error error => .error error
  else
    .error (.validation ("invalid field \"" ++ field ++ "\"; allowed: " ++
      ", ".intercalate (Projection.filterable π)))

/-- What the criterion says of the value of its field; a field that is not exposed or
null meets no criterion. -/
def matchesField (criterion : Criterion π) : Option Json → Bool
  | none | some .null => false
  | some actual => CriterionValue.admits actual criterion.operator criterion.value

def isMetBy (criterion : Criterion π) (projection : π) : Bool :=
  criterion.matchesField (Projection.field? projection criterion.field)

def outline (criterion : Criterion π) : String :=
  "FilterCriteria \x7b field: " ++ Text.quoted criterion.field ++ ", operator: " ++
    criterion.operator.outline ++ ", value: " ++ criterion.value.outline ++ " \x7d"

instance : Specification (Criterion π) π where
  isSatisfiedBy criterion projection := criterion.isMetBy projection

end Criterion

/-- The page of projections that meet all criteria: `limit` of them from `offset` on,
in their order. -/
def page {π : Type} [Projection π] (items : List π) (offset limit : Nat)
    (criteria : List (Criterion π)) : List π :=
  ((items.filter fun item => satisfiesAll item criteria).drop offset).take limit

end Cqrs.Filter
