/-
# Error -- what can go wrong, and its wording

`DomainError` names the causes that the rules of a domain and its stores raise, and
`AppError` those of carrying out a request.  `message` is the wording of each; a
broken rule of the domain (`DomainError.isRuleViolation`) is the caller's fault, a
`AppError.isConfiguration` error the assembler's.
-/

namespace Cqrs

set_option autoImplicit false

/-- An error of the domain or of the stores that hold its objects. -/
inductive DomainError where
  | invalidValue (reason : String)
  | insufficientFunds (available requested : Int64)
  | currencyMismatch (expected actual : String)
  | invalidState (reason : String)
  | notFound (resource : String) (id : Option String)
  | repository (reason : String)
  | unitOfWork (reason : String)
  | serialization (reason : String)
deriving DecidableEq, Repr

namespace DomainError

def message : DomainError → String
  | .invalidValue reason => s!"invalid value: {reason}"
  | .insufficientFunds available requested =>
      "insufficient funds: balance " ++ toString available.toInt ++ ", requested " ++
        toString requested.toInt
  | .currencyMismatch expected actual =>
      s!"currency mismatch: account uses {expected}, operation uses {actual}"
  | .invalidState reason => s!"invalid state: {reason}"
  | .notFound resource (some id) => s!"Resource '{resource}' not found for id '{id}'"
  | .notFound resource none => s!"Resource '{resource}' not found"
  | .repository reason => s!"repository error: {reason}"
  | .unitOfWork reason => s!"unit of work error: {reason}"
  | .serialization reason => s!"serialization error: {reason}"

/-- A rule of the domain was broken, as against a failure around it. -/
def isRuleViolation : DomainError → Bool
  | .invalidValue _ | .insufficientFunds _ _ | .currencyMismatch _ _ | .invalidState _ => true
  | .notFound _ _ | .repository _ | .unitOfWork _ | .serialization _ => false

end DomainError

/-- What a handler answers to. -/
inductive HandlerRole where
  | command
  | query
  | event
deriving DecidableEq, Repr

namespace HandlerRole

def name : HandlerRole → String
  | .command => "command"
  | .query => "query"
  | .event => "event"

end HandlerRole

/-- An error of carrying out a request. -/
inductive AppError where
  | domain (error : DomainError)
  | validation (reason : String)
  | infrastructure (reason : String)
  | handlerNotFound (role : HandlerRole) (name : String)
  | invalidHandler (role : HandlerRole) (name : String)
  | unresolved (id reason : String)
  | missingEventBus
deriving DecidableEq, Repr

namespace AppError

instance : Coe DomainError AppError := ⟨.domain⟩

def message : AppError → String
  | .domain error => "domain: " ++ error.message
  | .validation reason => s!"validation: {reason}"
  | .infrastructure reason => s!"infra: {reason}"
  | .handlerNotFound role name => "no handler registered for " ++ role.name ++ " " ++ name
  | .invalidHandler role name =>
      "handler for " ++ role.name ++ " " ++ name ++ " is not a valid handler"
  | .unresolved id reason => s!"failed to resolve '{id}': {reason}"
  | .missingEventBus => "application context carries no domain event bus"

/-- The application was put together wrongly, as against a request that failed. -/
def isConfiguration : AppError → Bool
  | .handlerNotFound _ _ | .invalidHandler _ _ | .unresolved _ _ | .missingEventBus => true
  | .domain _ | .validation _ | .infrastructure _ => false

end AppError

end Cqrs
