/-
# Application -- what an application is made of

An application has events, a state, kinds of commands with a payload each, and kinds of
queries with a question and an answer each.  Kinds are told apart by themselves: two of
them may share a name.  The context of a request says who asked and carries the event
bus of the request, if it has one.
-/
import Cqrs.Error

namespace Cqrs

set_option autoImplicit false

structure Application where
  Event : Type
  State : Type
  Command : Type
  Payload : Command → Type
  commandName : Command → String
  Query : Type
  Question : Query → Type
  Answer : Query → Type
  queryName : Query → String
  eventId : Event → String
  eventType : Event → String
  [commandDecidable : DecidableEq Command]
  [queryDecidable : DecidableEq Query]

attribute [instance] Application.commandDecidable Application.queryDecidable

/-- One of the event buses that share subscriptions and container. -/
structure BusId where
  number : Nat
deriving DecidableEq, Repr

/-- What surrounds one request. -/
structure Context where
  correlationId : Option String := none
  causationId : Option String := none
  actorId : Option String := none
  idempotencyKey : Option String := none
  events : Option BusId := none
deriving DecidableEq, Repr

namespace Context

def withEvents (context : Context) (bus : BusId) : Context :=
  { context with events := some bus }

/-- The event bus of the request, which has to be there. -/
def eventBus (context : Context) : Except AppError BusId :=
  match context.events with
  | some bus => .ok bus
  | none => .error .missingEventBus

end Context

/-- How much a record of the log matters. -/
inductive LogLevel where
  | info
  | warn
  | error
deriving DecidableEq, Repr

namespace LogLevel

def name : LogLevel → String
  | .info => "INFO"
  | .warn => "WARN"
  | .error => "ERROR"

end LogLevel

/-- The value of a field in a record of the log. -/
inductive LogValue where
  | text (value : String)
  | number (value : Int)
deriving DecidableEq, Repr

structure LogRecord where
  level : LogLevel
  message : String
  fields : List (String × LogValue)
deriving DecidableEq, Repr

end Cqrs
