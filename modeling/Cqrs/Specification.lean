/-
# Specification -- conditions on candidates

A specification is a condition that a candidate satisfies or not; `satisfiesAll`
asks for every one of some specifications, and holds of no condition at all.
-/

namespace Cqrs

set_option autoImplicit false

/-- Conditions of type `σ` on candidates of type `α`. -/
class Specification (σ α : Type) where
  isSatisfiedBy : σ → α → Bool

def satisfiesAll {σ α : Type} [Specification σ α] (candidate : α) (conditions : List σ) : Bool :=
  conditions.all fun condition => Specification.isSatisfiedBy condition candidate

/-- The condition of being at least a number. -/
structure AtLeast where
  least : Int64
deriving DecidableEq, Repr

instance : Specification AtLeast Int64 where
  isSatisfiedBy condition candidate := condition.least ≤ candidate

end Cqrs
