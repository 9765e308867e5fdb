/-
# Event.Log -- events and the log of them that an object carries

An event has an identifier, a type, a version of its payload, the payload and the
moment it occurred.  Two events are the same when their identifiers are, and two logs
when their events are, one by one (`EventLog.same`).
-/
import Cqrs.Instant
import Cqrs.Json

namespace Cqrs

set_option autoImplicit false

/-- What every event tells about itself. -/
class DomainEvent (ε : Type) where
  eventId : ε → String
  eventType : ε → String
  eventVersion : ε → String
  payload : ε → Json
  occurredAt : ε → Instant

namespace DomainEvent

variable {ε : Type} [DomainEvent ε]

/-- Two events are one when they have one identifier. -/
def same (a b : ε) : Bool :=
  eventId a == eventId b

/-- An event of one of two types tells what it tells among those of its own type.  Logs of such
events hold both types side by side. -/
instance {ε₁ ε₂ : Type} [DomainEvent ε₁] [DomainEvent ε₂] : DomainEvent (ε₁ ⊕ ε₂) where
  eventId := Sum.elim eventId eventId
  eventType := Sum.elim eventType eventType
  eventVersion := Sum.elim eventVersion eventVersion
  payload := Sum.elim payload payload
  occurredAt := Sum.elim occurredAt occurredAt

end DomainEvent

/-- Events in the order in which they were recorded. -/
structure EventLog (ε : Type) where
  events : List ε
deriving DecidableEq

namespace EventLog

variable {ε : Type}

def empty : EventLog ε := ⟨[]⟩

def recorded (log : EventLog ε) (event : ε) : EventLog ε :=
  ⟨log.events ++ [event]⟩

/-- The log with the events of another one after its own. -/
def append (log other : EventLog ε) : EventLog ε :=
  ⟨log.events ++ other.events⟩

def size (log : EventLog ε) : Nat :=
  log.events.length

def isEmpty (log : EventLog ε) : Bool :=
  log.events.isEmpty

variable [DomainEvent ε]

def ids (log : EventLog ε) : List String :=
  log.events.map DomainEvent.eventId

def types (log : EventLog ε) : List String :=
  log.events.map DomainEvent.eventType

/-- The logs hold the same events in the same order. -/
def same (a b : EventLog ε) : Bool :=
  a.size == b.size && (a.events.zip b.events).all fun pair => DomainEvent.same pair.1 pair.2

end EventLog

end Cqrs
