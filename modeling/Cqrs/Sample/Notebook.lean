/-
# Sample.Notebook -- a small application to try the buses with

The notebook's events are notes.  Two of its commands share a name and are still told
apart; `record` publishes the notes it is given.  Its handlers leave a line for all they
are given, so that the history shows who was asked and in which order.  Its state names the
event buses; handlers of notes find a bus by its name when they come to use it.
-/
import Cqrs.CommandBus
import Cqrs.QueryBus
import Cqrs.Sample.Note

namespace Cqrs.Sample

set_option autoImplicit false

/-- The notebook's kinds of command. -/
inductive NotebookCommand where
  | ping
  | pong
  | pingTwin
  | record
  | unregistered
deriving DecidableEq, Repr

namespace NotebookCommand

/-- The name of the kind; `pingTwin` shares the one of `ping`. -/
def name : NotebookCommand → String
  | .ping | .pingTwin => "Ping"
  | .pong => "Pong"
  | .record => "Record"
  | .unregistered => "Unregistered"

/-- The word for the kind, which no other kind shares. -/
def word : NotebookCommand → String
  | .ping => "Ping"
  | .pong => "Pong"
  | .pingTwin => "PingTwin"
  | .record => "Record"
  | .unregistered => "Unregistered"

end NotebookCommand

/-- Notes to record, and the error to end with. -/
structure RecordOrder where
  notes : List Note
  failure : Option AppError
deriving DecidableEq, Repr

abbrev NotebookCommand.Payload : NotebookCommand → Type
  | .ping | .pong | .pingTwin => Int64
  | .record => RecordOrder
  | .unregistered => Unit

/-- The notebook's kinds of query. -/
inductive NotebookQuery where
  | greet
  | count
deriving DecidableEq, Repr

namespace NotebookQuery

def name : NotebookQuery → String
  | .greet => "Greet"
  | .count => "Count"

abbrev Answer : NotebookQuery → Type
  | .greet => String
  | .count => Nat

end NotebookQuery

abbrev notebook : Application where
  Event := Note
  State := Table String BusId
  Command := NotebookCommand
  Payload := NotebookCommand.Payload
  commandName := NotebookCommand.name
  Query := NotebookQuery
  Question _ := String
  Answer := NotebookQuery.Answer
  queryName := NotebookQuery.name
  eventId := Note.id
  eventType := Note.eventType

/-- The notebook with nothing bound and the one bus of the start. -/
def blankNotebook : Broker notebook :=
  .start ⟨[("main", Broker.mainBus)]⟩

/-- Opens a bus under a name, which the bus that has it so far loses. -/
def openBusAs (name : String) (broker : Broker notebook) : Broker notebook :=
  let (bus, broker) := broker.openBus
  { broker with state := broker.state.put name bus }

def requestLine (handler request : String) (number : Int) (context : Context) : String :=
  handler ++ ":" ++ request ++ ":" ++ toString number ++
    (context.actorId.map fun actor => "@" ++ actor).getD ""

/-- Ends with an error, if there is one to end with. -/
def endWith (failure : Option AppError) : Except AppError Unit :=
  match failure with
  | some error => .error error
  | none => .ok ()

def handleNumber (handler request : String) (failure : Option AppError) (context : Context)
    (number : Int64) : Reaction notebook :=
  .perform (.note (requestLine handler request number.toInt context)) fun _ =>
    .done (endWith failure)

/-- Publishes notes, if there are any, and ends as the order says. -/
def handleRecord (context : Context) (order : RecordOrder) : Reaction notebook :=
  .perform (.note "handle") fun _ =>
    if order.notes.isEmpty then .done (endWith order.failure)
    else
      match context.eventBus with
      | .error error => .done (.error error)
      | .ok bus => .perform (.publish bus order.notes) fun _ => .done (endWith order.failure)

/-- A handler of a kind of command that leaves a line for each. -/
def commandBinding (handler : String) (failure : Option AppError) :
    NotebookCommand → Binding notebook
  | .ping => .command .ping (handleNumber handler NotebookCommand.ping.word failure)
  | .pong => .command .pong (handleNumber handler NotebookCommand.pong.word failure)
  | .pingTwin => .command .pingTwin (handleNumber handler NotebookCommand.pingTwin.word failure)
  | .record => .command .record handleRecord
  | .unregistered => .command .unregistered fun _ _ => .done (endWith failure)

/-- A handler of a kind of query that leaves a line for each. -/
def queryBinding (handler : String) (failure : Option AppError) :
    NotebookQuery → Binding notebook
  | .greet => .query .greet fun context question =>
      .perform (.note (requestLine handler NotebookQuery.greet.name 0 context)) fun _ =>
        .done ((endWith failure).map fun _ => handler ++ " greets " ++ question)
  | .count => .query .count fun context question =>
      .perform (.note (requestLine handler NotebookQuery.count.name 0 context)) fun _ =>
        .done ((endWith failure).map fun _ => question.toList.length)

/-- What a handler of notes does with one, once it has left a line. -/
inductive NoteReaction where
  /-- Nothing more. -/
  | keep
  /-- Fails, perhaps at one note only. -/
  | fail (failure : AppError) (only : Option String)
  /-- Publishes a note that follows. -/
  | republish (bus : String) (eventType : String)
  /-- Flushes a bus and ends as the flush does. -/
  | flush (bus : String)
  /-- Drops what waits on a bus. -/
  | discard (bus : String)
  /-- Subscribes a handler. -/
  | subscribe (eventType handler : String)
  /-- Removes a binding. -/
  | unbind (handler : String)
  /-- Counts what waits on a bus. -/
  | pending (bus : String)
deriving DecidableEq, Repr

namespace NoteReaction

/-- Goes on with the bus that has a name at that time; the main bus stands in for one that
nobody opened. -/
def withBus (name : String) (next : BusId → Reaction notebook) : Reaction notebook :=
  .perform .inspect fun (buses : Table String BusId) =>
    next ((buses.get? name).getD Broker.mainBus)

/-- What follows the line. -/
def program (handler : String) (note : Note) : NoteReaction → Reaction notebook
  | .keep => .done (.ok ())
  | .fail failure only =>
      .done (if only.all (· == note.id) then .error failure else .ok ())
  | .republish bus eventType =>
      withBus bus fun bus =>
        .perform (.publish bus [⟨note.id ++ "-next", eventType⟩]) fun _ => .done (.ok ())
  | .flush bus => withBus bus fun bus => .perform (.flush bus) fun outcome => .done outcome
  | .discard bus =>
      withBus bus fun bus =>
        .perform (.discard bus) fun (count : Nat) =>
          .perform (.note (handler ++ ":discarded " ++ toString count)) fun _ => .done (.ok ())
  | .subscribe eventType handler =>
      .perform (.subscribe eventType handler) fun _ => .done (.ok ())
  | .unbind bound =>
      .perform (.unbind bound) fun (there : Bool) =>
        .perform (.note (handler ++ ":unbound " ++ toString there)) fun _ => .done (.ok ())
  | .pending bus =>
      withBus bus fun bus =>
        .perform (.pending bus) fun (count : Nat) =>
          .perform (.note (handler ++ ":pending " ++ toString count)) fun _ => .done (.ok ())

def binding (reaction : NoteReaction) (handler : String) : Binding notebook :=
  .event fun note =>
    .perform (.note (handler ++ ":" ++ note.id)) fun _ => reaction.program handler note

end NoteReaction

end Cqrs.Sample
