/-
# Record.Error -- errors and what happened, as records

An error is written with its kind, its wording and what sort of fault it is, and read from
its kind and its parts.  The history of a broker is written as the lines that were left and
the records of the log.
-/
import Cqrs.Broker
import Cqrs.Record.Field

namespace Cqrs

set_option autoImplicit false

namespace DomainError

def kindName : DomainError → String
  | .invalidValue _ => "InvalidValue"
  | .insufficientFunds _ _ => "InsufficientFunds"
  | .currencyMismatch _ _ => "CurrencyMismatch"
  | .invalidState _ => "InvalidState"
  | .notFound _ _ => "NotFound"
  | .repository _ => "Repository"
  | .unitOfWork _ => "UnitOfWork"
  | .serialization _ => "Serde"

def fields (error : DomainError) : List (String × Json) :=
  [("error", .string error.kindName), ("message", .string error.message),
    ("rule_violation", .bool error.isRuleViolation)]

def toJson (error : DomainError) : Json :=
  .ofEntries error.fields

end DomainError

namespace AppError

def kindName : AppError → String
  | .domain _ => "Domain"
  | .validation _ => "Validation"
  | .infrastructure _ => "Infra"
  | .handlerNotFound _ _ => "HandlerNotFound"
  | .invalidHandler _ _ => "InvalidHandler"
  | .unresolved _ _ => "Resolve"
  | .missingEventBus => "MissingEventBus"

def fields (error : AppError) : List (String × Json) :=
  [("error", .string error.kindName), ("message", .string error.message),
    ("configuration", .bool error.isConfiguration)] ++
  match error with
  | .domain inner =>
      [("domain", .string inner.kindName), ("rule_violation", .bool inner.isRuleViolation)]
  | _ => []

def toJson (error : AppError) : Json :=
  .ofEntries error.fields

def roleOf (record : Json) : Decoded HandlerRole := do
  match ← record.text "of" with
  | "command" => return .command
  | "query" => return .query
  | "event" => return .event
  | other => throw other

def ofJson (record : Json) : Decoded AppError := do
  match ← record.text "kind" with
  | "InvalidValue" => return .domain (.invalidValue (← record.text "reason"))
  | "InvalidState" => return .domain (.invalidState (← record.text "reason"))
  | "Repository" => return .domain (.repository (← record.text "reason"))
  | "UnitOfWork" => return .domain (.unitOfWork (← record.text "reason"))
  | "InsufficientFunds" =>
      return .domain
        (.insufficientFunds (← record.int64 "available") (← record.int64 "requested"))
  | "CurrencyMismatch" =>
      return .domain (.currencyMismatch (← record.text "expected") (← record.text "actual"))
  | "NotFound" => return .domain (.notFound (← record.text "resource") (← record.text? "id"))
  | "Validation" => return .validation (← record.text "reason")
  | "Infra" => return .infrastructure (← record.text "reason")
  | "HandlerNotFound" => return .handlerNotFound (← roleOf record) (← record.text "name")
  | "InvalidHandler" => return .invalidHandler (← roleOf record) (← record.text "name")
  | "Resolve" => return .unresolved (← record.text "id") (← record.text "reason")
  | "MissingEventBus" => return .missingEventBus
  | kind => throw kind

end AppError

namespace LogRecord

def toJson (record : LogRecord) : Json :=
  .ofEntries ([("level", .string record.level.name), ("message", .string record.message)] ++
    record.fields.map fun entry =>
      (entry.1, match entry.2 with
        | .text value => .string value
        | .number value => .int value))

end LogRecord

namespace Activity

variable {A : Application}

/-- The line that was left: a handler's, or that of a call to a unit of work. -/
def line? : Activity A → Option String
  | .noted line => some line
  | .session unit call _ => some (unit ++ call.name)
  | _ => none

def logged? : Activity A → Option LogRecord
  | .logged record => some record
  | _ => none

def lines (history : List (Activity A)) : List String :=
  history.filterMap line?

def log (history : List (Activity A)) : List LogRecord :=
  history.filterMap logged?

end Activity

end Cqrs
