/-
# Filter.Operator -- the operators of a criterion
-/
import Cqrs.Json.Reading

namespace Cqrs.Filter

set_option autoImplicit false

/-- How a field is held against the value of a criterion. -/
inductive Operator where
  | eq
  | neq
  | gt
  | gte
  | lt
  | lte
  | isIn
  | between
  | like
deriving DecidableEq, Repr

namespace Operator

def name : Operator → String
  | .eq => "eq"
  | .neq => "neq"
  | .gt => "gt"
  | .gte => "gte"
  | .lt => "lt"
  | .lte => "lte"
  | .isIn => "in"
  | .between => "between"
  | .like => "like"

def outline : Operator → String
  | .eq => "Eq"
  | .neq => "Neq"
  | .gt => "Gt"
  | .gte => "Gte"
  | .lt => "Lt"
  | .lte => "Lte"
  | .isIn => "In"
  | .between => "Between"
  | .like => "Like"

instance : Vocabulary Operator where
  values := [.eq, .neq, .gt, .gte, .lt, .lte, .isIn, .between, .like]
  name := name

def parse (text : String) : Except AppError Operator :=
  match Vocabulary.read? text with
  | some operator => .ok operator
  | none => .error (.validation s!"unknown filter operator '{text}'")

end Operator

end Cqrs.Filter
