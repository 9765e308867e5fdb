/-
# CommandBus -- carrying out commands

A command goes to the one handler that is registered for its kind and bound in the
container.  Two layers can be laid around that.  A flushing layer delivers the events of
the request once the command succeeded, and drops them or keeps them when it failed.  A
transactional layer opens a session of a unit of work first and commits or rolls back
last.

A flushing layer lies only around buses without transactions, which is why there are two
types: `DirectBus` without and `CommandBus` with transactions.  Events are therefore
always flushed inside all transactions.
-/
import Cqrs.Broker.Delivery

namespace Cqrs

set_option autoImplicit false

/-- What becomes of the events of a command that failed. -/
inductive FlushPolicy where
  | discardOnFailure
  | retainOnFailure
deriving DecidableEq, Repr, Inhabited

/-- Whether each call to a unit of work fails, and how, at each moment of the history. -/
structure UnitOfWork where
  name : String
  failure? : SessionCall → Nat → Option DomainError

namespace UnitOfWork

variable {A : Application}

/-- The unit of work that fails the calls in a list. -/
def failing (name : String) (calls : List SessionCall) : UnitOfWork where
  name := name
  failure? call _ :=
    if call ∈ calls then some (.unitOfWork (call.name ++ " failed")) else none

def call (unit : UnitOfWork) (call : SessionCall) : Act A (Except DomainError Unit) :=
  fun broker =>
    match unit.failure? call broker.history.length with
    | none => (some (.ok ()), broker.record (.session unit.name call true))
    | some error => (some (.error error), broker.record (.session unit.name call false))

end UnitOfWork

/-- A command bus without transactions. -/
inductive DirectBus where
  /-- The bus that finds handlers in the container. -/
  | container
  /-- A layer that flushes the events of the request. -/
  | flushing (policy : FlushPolicy) (inner : DirectBus)
deriving Repr

/-- A command bus. -/
inductive CommandBus where
  /-- A bus without transactions. -/
  | direct (bus : DirectBus)
  /-- A layer that runs the inner bus in a session of a unit of work. -/
  | transactional (unit : UnitOfWork) (inner : CommandBus)

namespace Broker

variable {A : Application}

/-- Takes down how a handler ended with a command. -/
def complete (handler : String) (kind : A.Command) (payload : A.Payload kind)
    (outcome : Except AppError Unit) : Act A (Except AppError Unit) := fun broker =>
  (some outcome, broker.record (.completed handler kind payload outcome))

/-- Gives a command to the handler registered for its kind. -/
def dispatch (depth : Nat) (context : Context) (kind : A.Command) (payload : A.Payload kind) :
    Act A (Except AppError Unit) := fun broker =>
  match broker.commands.get? kind with
  | none =>
      (some (.error (.handlerNotFound .command (A.commandName kind))),
        broker.record (.logged ⟨.warn, "no command handler registered",
          [("command", .text (A.commandName kind))]⟩))
  | some handler =>
      match broker.resolve handler with
      | .error error => (some (.error error), broker)
      | .ok binding =>
          match binding.asCommand? kind with
          | some handle =>
              ((handle context payload).run (flush depth)).bind (complete handler kind payload)
                (broker.record (.handled handler kind payload))
          | none => (some (.error (.invalidHandler .command (A.commandName kind))), broker)

end Broker

namespace DirectBus

variable {A : Application}

/-- The policies of the flushing layers, outermost first. -/
def policies : DirectBus → List FlushPolicy
  | .container => []
  | .flushing policy inner => policy :: inner.policies

/-- What a flushing layer does once the inner bus answered. -/
def settle (depth : Nat) (policy : FlushPolicy) (bus : BusId) :
    Except AppError Unit → Act A (Except AppError Unit)
  | .ok () => Broker.flush depth bus
  | .error error => fun broker =>
      match policy with
      | .discardOnFailure => (some (.error error), (broker.discard bus).2)
      | .retainOnFailure => (some (.error error), broker)

/-- Lays a flushing layer around a way to carry out a command.  The request has to have an
event bus. -/
def flushAround (depth : Nat) (policy : FlushPolicy) (context : Context)
    (inner : Act A (Except AppError Unit)) : Act A (Except AppError Unit) :=
  match context.eventBus with
  | .error error => .answer (.error error)
  | .ok bus => inner.bind (settle depth policy bus)

def dispatch (depth : Nat) (context : Context) (kind : A.Command) (payload : A.Payload kind) :
    DirectBus → Act A (Except AppError Unit)
  | .container => Broker.dispatch depth context kind payload
  | .flushing policy inner =>
      flushAround depth policy context (inner.dispatch depth context kind payload)

end DirectBus

namespace CommandBus

variable {A : Application}

/-- The standard pipeline: a transaction around a flushing layer around a bus. -/
def pipeline (unit : UnitOfWork) (policy : FlushPolicy) (inner : DirectBus := .container) :
    CommandBus :=
  .transactional unit (.direct (.flushing policy inner))

def policies : CommandBus → List FlushPolicy
  | .direct bus => bus.policies
  | .transactional _ inner => inner.policies

/-- Rolls back after an error, which stays the error. -/
def giveUp (unit : UnitOfWork) (command : String) (error : AppError) :
    Act A (Except AppError Unit) := do
  Act.change (·.record (.logged ⟨.warn, "rolling back unit of work",
    [("command", .text command), ("error", .text error.message)]⟩))
  match ← unit.call .rollback with
  | .ok () => Act.answer (.error error)
  | .error failure =>
      Act.change (·.record (.logged ⟨.error, "rollback failed",
        [("command", .text command), ("error", .text failure.message)]⟩))
      Act.answer (.error error)

/-- Commits after a success and gives up after an error. -/
def conclude (unit : UnitOfWork) (command : String) :
    Except AppError Unit → Act A (Except AppError Unit)
  | .error error => giveUp unit command error
  | .ok () => do
      match ← unit.call .commit with
      | .ok () => Act.answer (.ok ())
      | .error failure => giveUp unit command (.domain failure)

/-- Lays a session of a unit of work around a way to carry out a command. -/
def sessionAround (unit : UnitOfWork) (command : String) (inner : Act A (Except AppError Unit)) :
    Act A (Except AppError Unit) := do
  match ← unit.call .createSession with
  | .error failure => Act.answer (.error (.domain failure))
  | .ok () =>
      let outcome ← inner
      conclude unit command outcome

def dispatch (depth : Nat) (context : Context) (kind : A.Command) (payload : A.Payload kind) :
    CommandBus → Act A (Except AppError Unit)
  | .direct bus => bus.dispatch depth context kind payload
  | .transactional unit inner =>
      sessionAround unit (A.commandName kind) (inner.dispatch depth context kind payload)

end CommandBus

end Cqrs
