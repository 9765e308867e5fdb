/-
# ValueObject -- values that are what they hold

A value object has no identity: it is its value, and only valid ones are made.
-/
import Cqrs.Error

namespace Cqrs

set_option autoImplicit false

/-- Values with a rule that the valid ones obey. -/
class ValueObject (α : Type) where
  validate : α → Except DomainError Unit

namespace ValueObject

variable {α : Type} [ValueObject α]

def validated (value : α) : Except DomainError α :=
  match validate value with
  | .ok () => .ok value
  | .error error => .error error

end ValueObject

end Cqrs
