/-
# Broker -- what the parts of a running application share

A broker holds the container, the registrations of the command and the query bus, the
subscriptions and the buffers of the event buses, the state of the application, and the
history of everything that happened, oldest first.  The buses of a family differ in
nothing but their buffers.

An `Act` runs on a broker and leaves one.  It has no answer when event buses flushed one
another deeper than the allowed depth; the broker is then the one reached so far.
-/
import Cqrs.Program
import Cqrs.Table
import Cqrs.Text.Quoted

namespace Cqrs

set_option autoImplicit false

/-- The calls to a unit of work. -/
inductive SessionCall where
  | createSession
  | commit
  | rollback
deriving DecidableEq, Repr

namespace SessionCall

def name : SessionCall → String
  | .createSession => "create_session"
  | .commit => "commit"
  | .rollback => "rollback"

end SessionCall

/-- Something that happened. -/
inductive Activity (A : Application) where
  /-- A handler left a line. -/
  | noted (line : String)
  /-- A record of the log was written. -/
  | logged (record : LogRecord)
  /-- Events were put into the buffer of a bus. -/
  | published (bus : BusId) (events : List A.Event)
  /-- The whole buffer of a bus was taken, to be delivered or dropped. -/
  | taken (bus : BusId) (events : List A.Event)
  /-- The handler bound under an id was given an event. -/
  | notified (handler : String) (event : A.Event)
  /-- The handler bound under an id was given a command. -/
  | handled (handler : String) (kind : A.Command) (payload : A.Payload kind)
  /-- The handler bound under an id was done with a command. -/
  | completed (handler : String) (kind : A.Command) (payload : A.Payload kind)
      (outcome : Except AppError Unit)
  /-- The handler bound under an id was asked a question. -/
  | asked (handler : String) (kind : A.Query) (question : A.Question kind)
  /-- A unit of work was called, and the call succeeded or failed. -/
  | session (unitOfWork : String) (call : SessionCall) (succeeded : Bool)

/-- Everything the parts of a running application share. -/
structure Broker (A : Application) where
  container : Table String (Binding A)
  commands : Table A.Command String
  queries : Table A.Query String
  /-- Types of event with the handlers subscribed to them, in the order of the calls. -/
  subscriptions : List (String × String)
  buffers : Table BusId (List A.Event)
  /-- The number of buses opened so far. -/
  opened : Nat
  state : A.State
  history : List (Activity A)

/-- A run on a broker; without an answer it came to the end of its depth. -/
def Act (A : Application) (α : Type) : Type :=
  Broker A → Option α × Broker A

namespace Act

variable {A : Application} {α β : Type}

/-- An answer that leaves the broker as it is. -/
def answer (result : α) : Act A α := fun broker => (some result, broker)

/-- A run followed by one that depends on its answer. -/
def bind (act : Act A α) (next : α → Act A β) : Act A β := fun broker =>
  match act broker with
  | (some result, broker) => next result broker
  | (none, broker) => (none, broker)

instance : Monad (Act A) where
  pure := answer
  bind := bind

def change (f : Broker A → Broker A) : Act A Unit := fun broker => (some (), f broker)

def look (f : Broker A → α) : Act A α := fun broker => (some (f broker), broker)

end Act

namespace Broker

variable {A : Application}

def mainBus : BusId := ⟨0⟩

/-- A broker with one empty bus and nothing bound, registered or subscribed. -/
def start (state : A.State) : Broker A where
  container := .empty
  commands := .empty
  queries := .empty
  subscriptions := []
  buffers := .empty
  opened := 1
  state := state
  history := []

def record (broker : Broker A) (activity : Activity A) : Broker A :=
  { broker with history := broker.history ++ [activity] }

/-- Binds something under an id, in place of what was bound there. -/
def bind (broker : Broker A) (id : String) (binding : Binding A) : Broker A :=
  { broker with container := broker.container.put id binding }

def unbind (broker : Broker A) (id : String) : Broker A :=
  { broker with container := broker.container.erase id }

/-- What is bound under an id, which has to be there. -/
def resolve (broker : Broker A) (id : String) : Except AppError (Binding A) :=
  match broker.container.get? id with
  | some binding => .ok binding
  | none => .error (.unresolved id "no instance bound")

def registerCommand (broker : Broker A) (kind : A.Command) (handler : String) : Broker A :=
  { broker with commands := broker.commands.put kind handler }

def registerQuery (broker : Broker A) (kind : A.Query) (handler : String) : Broker A :=
  { broker with queries := broker.queries.put kind handler }

def registeredCommands (broker : Broker A) : List String :=
  broker.commands.keys.map A.commandName

def registeredQueries (broker : Broker A) : List String :=
  broker.queries.keys.map A.queryName

/-- Subscribes a handler to a type of event, after those subscribed before. -/
def subscribe (broker : Broker A) (eventType handler : String) : Broker A :=
  { broker with subscriptions := broker.subscriptions ++ [(eventType, handler)] }

/-- The handlers subscribed to a type of event, in the order of the calls. -/
def subscribers (broker : Broker A) (eventType : String) : List String :=
  (broker.subscriptions.filter fun entry => entry.1 = eventType).map Prod.snd

def buffer (broker : Broker A) (bus : BusId) : List A.Event :=
  (broker.buffers.get? bus).getD []

def pending (broker : Broker A) (bus : BusId) : Nat :=
  (broker.buffer bus).length

/-- Puts events into the buffer of a bus, after those that wait there. -/
def publish (broker : Broker A) (bus : BusId) (events : List A.Event) : Broker A :=
  { broker with buffers := broker.buffers.put bus (broker.buffer bus ++ events) }.record
    (.published bus events)

def take (broker : Broker A) (bus : BusId) : List A.Event × Broker A :=
  (broker.buffer bus,
    { broker with buffers := broker.buffers.put bus [] }.record (.taken bus (broker.buffer bus)))

/-- Drops the events that wait on a bus and tells their number. -/
def discard (broker : Broker A) (bus : BusId) : Nat × Broker A :=
  let (events, broker) := broker.take bus
  (events.length, broker)

/-- Opens one more bus of the family, with nothing in its buffer. -/
def openBus (broker : Broker A) : BusId × Broker A :=
  let bus : BusId := ⟨broker.opened⟩
  (bus, { broker with buffers := broker.buffers.put bus [], opened := broker.opened + 1 })

/-- A context spelled out, with the number of events that wait on its bus. -/
def outlineContext (broker : Broker A) (context : Context) : String :=
  let optional (text : Option String) : String :=
    match text with
    | some text => "Some(" ++ Text.quoted text ++ ")"
    | none => "None"
  let events : String :=
    match context.events with
    | some bus => "Some(" ++ toString (broker.pending bus) ++ ")"
    | none => "None"
  "AppContext \x7b correlation_id: " ++ optional context.correlationId ++
    ", causation_id: " ++ optional context.causationId ++
    ", actor_id: " ++ optional context.actorId ++
    ", idempotency_key: " ++ optional context.idempotencyKey ++
    ", events: " ++ events ++ " \x7d"

end Broker

namespace Effect

variable {A : Application}

def carryOut (flush : BusId → Act A (Except AppError Unit)) :
    (effect : Effect A) → Act A effect.Response
  | .note line => Act.change (·.record (.noted line))
  | .log record => Act.change (·.record (.logged record))
  | .inspect => Act.look (·.state)
  | .update f => Act.change fun broker => { broker with state := f broker.state }
  | .publish bus events => Act.change (·.publish bus events)
  | .subscribe eventType handler => Act.change (·.subscribe eventType handler)
  | .unbind id => fun broker => (some (broker.container.has id), broker.unbind id)
  | .pending bus => Act.look (·.pending bus)
  | .discard bus => fun broker =>
      let (count, broker) := broker.discard bus
      (some count, broker)
  | .flush bus => flush bus

end Effect

namespace Program

variable {A : Application} {α : Type}

/-- Carries out the effects of a program one after another, flushes as it is told. -/
def run (flush : BusId → Act A (Except AppError Unit)) : Program A α → Act A α
  | .done result => .answer result
  | .perform effect next =>
      (effect.carryOut flush).bind fun response => (next response).run flush

end Program

end Cqrs
