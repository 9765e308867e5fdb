/-
# Event.Metadata -- what is known of an event beside its content
-/
import Cqrs.Instant
import Cqrs.Json

namespace Cqrs

set_option autoImplicit false

/-- Identifier, version of the payload, the object concerned and the moment. -/
structure EventMetadata where
  eventId : String
  eventVersion : String := "1.0"
  aggregateId : String
  aggregateType : String
  occurredAt : Instant
deriving DecidableEq

namespace EventMetadata

/-- The metadata as a JSON object, the moment with its whole fraction. -/
def toJson (metadata : EventMetadata) : Json :=
  .ofEntries [
    ("event_id", .string metadata.eventId),
    ("event_version", .string metadata.eventVersion),
    ("aggregate_id", .string metadata.aggregateId),
    ("aggregate_type", .string metadata.aggregateType),
    ("occurred_at", .string metadata.occurredAt.text)]

end EventMetadata

end Cqrs
