/-
# Program -- what handlers do

A handler is a program: a row of effects, each chosen by the responses to those before
it, and a result.  Effects reach the state of the application, the container and the
event buses, and nothing else.  `Program.Only` says that a program uses none but certain
effects, whatever it is answered.
-/
import Cqrs.Application

namespace Cqrs

set_option autoImplicit false

/-- One thing a handler asks for. -/
inductive Effect (A : Application) where
  /-- Leave a line in the history. -/
  | note (line : String)
  /-- Write a record of the log. -/
  | log (record : LogRecord)
  /-- Look at the state. -/
  | inspect
  /-- Change the state. -/
  | update (change : A.State → A.State)
  /-- Publish events on a bus. -/
  | publish (bus : BusId) (events : List A.Event)
  /-- Subscribe a handler to a type of event. -/
  | subscribe (eventType handler : String)
  /-- Remove a binding from the container; the response says if there was one. -/
  | unbind (id : String)
  /-- The number of events that wait on a bus. -/
  | pending (bus : BusId)
  /-- Drop the events that wait on a bus; the response is their number. -/
  | discard (bus : BusId)
  /-- Deliver the events that wait on a bus. -/
  | flush (bus : BusId)

def Effect.Response {A : Application} : Effect A → Type
  | .note _ | .log _ | .update _ | .publish _ _ | .subscribe _ _ => Unit
  | .inspect => A.State
  | .unbind _ => Bool
  | .pending _ | .discard _ => Nat
  | .flush _ => Except AppError Unit

/-- Effects that lead to a result. -/
inductive Program (A : Application) (α : Type) where
  | done (result : α)
  | perform (effect : Effect A) (next : effect.Response → Program A α)

namespace Program

variable {A : Application} {α β : Type}

/-- A program followed by one that depends on its result. -/
def bind (next : α → Program A β) : Program A α → Program A β
  | .done result => next result
  | .perform effect rest => .perform effect fun response => (rest response).bind next

instance : Monad (Program A) where
  pure := .done
  bind program next := program.bind next

def effect (effect : Effect A) : Program A effect.Response :=
  .perform effect .done

/-- Every effect that the program can come to satisfies the condition. -/
def Only (condition : Effect A → Prop) : Program A α → Prop
  | .done _ => True
  | .perform effect next => condition effect ∧ ∀ response, (next response).Only condition

theorem Only.bind {condition : Effect A → Prop} {program : Program A α}
    {next : α → Program A β} (first : program.Only condition)
    (second : ∀ result, (next result).Only condition) :
    (program.bind next).Only condition := by
  induction program with
  | done result => exact second result
  | perform effect rest ih => exact ⟨first.1, fun response => ih _ (first.2 response)⟩

end Program

/-- What a handler of commands or events comes to. -/
abbrev Reaction (A : Application) := Program A (Except AppError Unit)

/-- What the container can hold under an id. -/
inductive Binding (A : Application) where
  | command (kind : A.Command) (handle : Context → A.Payload kind → Reaction A)
  | query (kind : A.Query)
      (answer : Context → A.Question kind → Program A (Except AppError (A.Answer kind)))
  | event (handle : A.Event → Reaction A)
  | text (value : String)
  | number (value : Int)
  | object

namespace Binding

variable {A : Application}

/-- The handler of a kind of command, if that is what is bound. -/
def asCommand? (kind : A.Command) : Binding A → Option (Context → A.Payload kind → Reaction A)
  | .command bound handle => if same : bound = kind then some (same ▸ handle) else none
  | _ => none

/-- The handler of a kind of query, if that is what is bound. -/
def asQuery? (kind : A.Query) : Binding A →
    Option (Context → A.Question kind → Program A (Except AppError (A.Answer kind)))
  | .query bound answer => if same : bound = kind then some (same ▸ answer) else none
  | _ => none

/-- The handler of events, if that is what is bound. -/
def asEvent? : Binding A → Option (A.Event → Reaction A)
  | .event handle => some handle
  | _ => none

end Binding

end Cqrs
