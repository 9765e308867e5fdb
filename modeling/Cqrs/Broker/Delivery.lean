/-
# Broker.Delivery -- delivering the events of a bus

A flush takes the whole buffer of a bus and gives its events, in order, to the handlers
subscribed to their types, in the order of the subscriptions.  The subscribers of an
event are read when its turn begins.  The first handler that cannot be resolved, is no
handler of events, or fails ends the flush with its error, and the rest of the batch is
given up.  Events published meanwhile wait for the next flush.

Handlers may flush in their turn; `flush depth` allows that many flushes within one
another.
-/
import Cqrs.Broker

namespace Cqrs.Broker

set_option autoImplicit false

variable {A : Application}

/-- Gives an event to the handler bound under an id. -/
def notify (flush : BusId → Act A (Except AppError Unit)) (event : A.Event) (handler : String) :
    Act A (Except AppError Unit) := fun broker =>
  match broker.resolve handler with
  | .error error => (some (.error error), broker)
  | .ok binding =>
      match binding.asEvent? with
      | some handle => (handle event).run flush (broker.record (.notified handler event))
      | none => (some (.error (.invalidHandler .event (A.eventType event))), broker)

/-- Gives an event to some handlers, one after another, up to the first failure. -/
def deliver (flush : BusId → Act A (Except AppError Unit)) (event : A.Event) :
    List String → Act A (Except AppError Unit)
  | [] => .answer (.ok ())
  | handler :: rest =>
      (notify flush event handler).bind fun
        | .ok () => deliver flush event rest
        | .error error => .answer (.error error)

/-- Delivers events one after another, up to the first failure. -/
def deliverAll (flush : BusId → Act A (Except AppError Unit)) :
    List A.Event → Act A (Except AppError Unit)
  | [] => .answer (.ok ())
  | event :: rest => fun broker =>
      ((deliver flush event (broker.subscribers (A.eventType event))).bind fun
        | .ok () => deliverAll flush rest
        | .error error => .answer (.error error)) broker

/-- Delivers the events that wait on a bus, with so many flushes within one another. -/
def flush : Nat → BusId → Act A (Except AppError Unit)
  | 0, _ => fun broker => (none, broker)
  | depth + 1, bus => fun broker =>
      let (events, broker) := broker.take bus
      deliverAll (flush depth) events broker

end Cqrs.Broker
