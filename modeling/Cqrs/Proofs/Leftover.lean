/-
# Proofs.Leftover -- what a failed command leaves on the bus of its request

A flushing layer that discards drops the events of a command that failed.  It drops nothing
when the command succeeded and a handler of its events failed: then events that other handlers
published earlier in that flush stay on the bus, and the next flush of the bus delivers them,
in whatever request that is.

* `flushing_error_cases` -- the bus is left empty if the command failed, and with what was
  published in the flush and not taken since if the flush failed;
* `afterwards_adds` -- what is left comes first in whatever is taken from the bus later;
* `failed_command_leftover` -- both together.  Nothing of a failed command is delivered later
  exactly where nothing is left.
-/
import Cqrs.Proofs.Growth
import Cqrs.Sample.Notebook

namespace Cqrs

set_option autoImplicit false

variable {A : Application}

structure Dispatch (A : Application) where
  bus : CommandBus
  context : Context
  kind : A.Command
  payload : A.Payload kind

def Dispatch.run (depth : Nat) (dispatch : Dispatch A) : Act A (Except AppError Unit) :=
  dispatch.bus.dispatch depth dispatch.context dispatch.kind dispatch.payload

/-- What runs after a flushing layer failed: the end of the session around it, if there is
one, and any further commands. -/
def afterwards (depth : Nat) (error : AppError) (session : Option UnitOfWork) (command : String)
    (dispatches : List (Dispatch A)) : Act A (List (Except AppError Unit)) :=
  Act.bind
    (match session with
      | none => .answer (.error error)
      | some unit => CommandBus.giveUp unit command error)
    fun _ => Act.each (dispatches.map (Dispatch.run depth))

theorem afterwards_adds (depth : Nat) (error : AppError) (session : Option UnitOfWork)
    (command : String) (dispatches : List (Dispatch A)) (broker : Broker A) :
    ∃ later, Broker.Adds later [] broker
      (afterwards depth error session command dispatches broker).2 := by
  have frame : Frame (fun _ => True) (Broker.Grows (A := A) fun _ => True) := Broker.any_frame
  have further : ∀ broker : Broker A, Broker.Grows (fun _ => True) [] broker
      (Act.each (dispatches.map (Dispatch.run depth)) broker).2 := by
    intro broker
    refine frame.each ?_ broker broker.eventsOnly_true
    intro act member next _
    obtain ⟨dispatch, _, rfl⟩ := List.mem_map.mp member
    exact Broker.commandDispatch_grows dispatch.bus next
  have all : Broker.Grows (fun _ => True) [] broker
      (afterwards depth error session command dispatches broker).2 := by
    refine frame.bind ?_ fun _ => further _
    cases session with
    | none => exact frame.refl _ _
    | some unit => exact Broker.giveUp_grows unit command error broker
  obtain ⟨later, _, adds⟩ := all
  exact ⟨later, adds⟩

/-- What is left of a flush that began on the one broker and ended on the other: what was
published in it and not taken since. -/
structure LeftBy (bus : BusId) (flushed : List (Activity A)) (before after : Broker A) : Prop where
  history : after.history = before.history ++ .taken bus (before.buffer bus) :: flushed
  leftover : after.buffer bus = Activity.waiting bus [] flushed
  balance : Activity.publications bus flushed =
    Activity.batches bus flushed ++ after.buffer bus

theorem flush_leftBy {depth : Nat} {bus : BusId} {before after : Broker A}
    {outcome : Except AppError Unit}
    (flushed : Broker.flush depth bus before = (some outcome, after)) :
    ∃ segment, LeftBy bus segment before after := by
  cases depth with
  | zero => cases flushed
  | succ depth =>
      obtain ⟨segment, adds⟩ := Broker.flush_adds depth bus before
      rw [flushed] at adds
      have taken := before.take_buffer bus
      refine ⟨segment, ?_, ?_, ?_⟩
      · rw [adds.history]
        exact List.append_assoc _ [_] _
      · rw [adds.waiting bus, taken]
      · have balance := adds.publications_eq bus
        rw [taken] at balance
        exact balance

/-- The ways in which a discarding layer comes to an error. -/
theorem flushing_error_cases {depth : Nat} {context : Context} {kind : A.Command}
    {payload : A.Payload kind} {inner : DirectBus} {before after : Broker A} {error : AppError}
    (failed : (DirectBus.flushing .discardOnFailure inner).dispatch depth context kind payload
      before = (some (.error error), after)) :
    (context.events = none ∧ after = before) ∨
    ∃ bus middle, context.events = some bus ∧
      ((inner.dispatch depth context kind payload before = (some (.error error), middle) ∧
          after = (middle.discard bus).2) ∨
        (inner.dispatch depth context kind payload before = (some (.ok ()), middle) ∧
          Broker.flush depth bus middle = (some (.error error), after))) := by
  unfold DirectBus.dispatch at failed
  cases present : context.events with
  | none =>
      simp only [DirectBus.flushAround, Context.eventBus, present] at failed
      cases failed
      exact Or.inl ⟨rfl, rfl⟩
  | some bus =>
      simp only [DirectBus.flushAround, Context.eventBus, present] at failed
      rcases carried : inner.dispatch depth context kind payload before with
        ⟨_ | (refusal | _), middle⟩
      · rw [Act.bind_of_none carried] at failed
        cases failed
      · rw [Act.bind_of_some carried] at failed
        cases failed
        exact Or.inr ⟨bus, middle, rfl, Or.inl ⟨rfl, rfl⟩⟩
      · rw [Act.bind_of_some carried] at failed
        exact Or.inr ⟨bus, middle, rfl, Or.inr ⟨rfl, failed⟩⟩

/-- A session around a discarding layer that failed only rolls back. -/
theorem pipeline_of_failed {depth : Nat} {context : Context} {kind : A.Command}
    {payload : A.Payload kind} {inner : DirectBus} {start before after : Broker A}
    {error : AppError} {unit : UnitOfWork}
    (failed : (DirectBus.flushing .discardOnFailure inner).dispatch depth context kind payload
      before = (some (.error error), after))
    (opened : unit.call .createSession start = (some (.ok ()), before)) :
    (CommandBus.pipeline unit .discardOnFailure inner).dispatch depth context kind payload start =
      CommandBus.giveUp unit (A.commandName kind) error after :=
  (Act.bind_of_some opened).trans (Act.bind_of_some failed)

/-- **What a failed command leaves behind**, with a layer that discards, alone or inside a
session.  Nothing happened without an event bus.  If the command failed, nothing is left on the
bus.  If the flush failed, what was published in it and not taken since is left.  Later on
events are delivered only out of what is taken from a bus, and what is left comes first in all
that is taken from this one, in particular by its next flush; so where nothing is left, only
what is published later is taken later. -/
theorem failed_command_leftover {depth : Nat} {context : Context} {kind : A.Command}
    {payload : A.Payload kind} {inner : DirectBus} {before after : Broker A} {error : AppError}
    (failed : (DirectBus.flushing .discardOnFailure inner).dispatch depth context kind payload
      before = (some (.error error), after)) :
    ((context.events = none ∧ after = before) ∨
      ∃ bus middle, context.events = some bus ∧
        ((inner.dispatch depth context kind payload before = (some (.error error), middle) ∧
            after.buffer bus = []) ∨
          (inner.dispatch depth context kind payload before = (some (.ok ()), middle) ∧
            ∃ flushed, LeftBy bus flushed middle after))) ∧
    (∀ bus session command dispatches,
      let final := (afterwards depth error session command dispatches after).2
      ∃ later, final.history = after.history ++ later ∧
        (∀ front handler event back, later = front ++ .notified handler event :: back →
          ∃ source batch, .taken source batch ∈ front ∧ event ∈ batch) ∧
        after.buffer bus ++ Activity.publications bus later =
          Activity.batches bus later ++ final.buffer bus ∧
        (after.buffer bus = [] →
          Activity.batches bus later <+: Activity.publications bus later)) ∧
    (∀ limit bus, ∃ flushed, (Broker.flush (limit + 1) bus after).2.history =
      after.history ++ .taken bus (after.buffer bus) :: flushed) ∧
    ∀ unit start, UnitOfWork.call unit .createSession start = (some (.ok ()), before) →
      (CommandBus.pipeline unit .discardOnFailure inner).dispatch depth context kind payload
        start = CommandBus.giveUp unit (A.commandName kind) error after := by
  refine ⟨?_, ?_, ?_, fun unit start opened => pipeline_of_failed failed opened⟩
  · rcases flushing_error_cases failed with nothing | ⟨bus, middle, present, refused | flushed⟩
    · exact Or.inl nothing
    · obtain ⟨carried, rfl⟩ := refused
      exact Or.inr ⟨bus, middle, present, Or.inl ⟨carried, middle.take_buffer bus⟩⟩
    · exact Or.inr ⟨bus, middle, present, Or.inr ⟨flushed.1, flush_leftBy flushed.2⟩⟩
  · intro bus session command dispatches final
    obtain ⟨later, adds⟩ := afterwards_adds depth error session command dispatches after
    have balance := adds.publications_eq bus
    refine ⟨later, adds.history, ?_, balance, ?_⟩
    · intro front handler event back split
      have sourced := adds.sourced
      rw [split] at sourced
      exact sourced.delivered.resolve_left (List.not_mem_nil)
    · intro nothing
      rw [nothing, List.nil_append] at balance
      exact ⟨_, balance.symm⟩
  · intro limit bus
    obtain ⟨flushed, adds⟩ := Broker.flush_adds limit bus after
    refine ⟨flushed, adds.history.trans ?_⟩
    exact List.append_assoc _ [_] _

namespace Sample

/-- A notebook where a note that starts something is followed up by one handler before another
one fails. -/
def restlessNotebook : Broker notebook :=
  blankNotebook
    |>.bind "record" (commandBinding "record" none .record)
    |>.bind "again" ((NoteReaction.republish "main" "next").binding "again")
    |>.bind "boom" ((NoteReaction.fail (.infrastructure "store down") none).binding "boom")
    |>.bind "log" (NoteReaction.keep.binding "log")
    |>.registerCommand .record "record"
    |>.subscribe "start" "again"
    |>.subscribe "start" "boom"
    |>.subscribe "next" "log"

def recordNotes (notes : List Note) (broker : Broker notebook) :
    Option (Except AppError Unit) × Broker notebook :=
  (DirectBus.flushing .discardOnFailure .container).dispatch 1
    (({} : Context).withEvents Broker.mainBus) .record ⟨notes, none⟩ broker

/-- The recording of a note that is followed up and then fails. -/
def failedRecording : Option (Except AppError Unit) × Broker notebook :=
  recordNotes [⟨"1", "start"⟩] restlessNotebook

/-- The follow-up of a note whose command failed is delivered by the next command. -/
theorem followUp_of_failure_delivered :
    failedRecording.1 = some (.error (.infrastructure "store down")) ∧
      (⟨"1-next", "next"⟩ : Note) ∈
        Activity.publications Broker.mainBus failedRecording.2.history ∧
      Activity.deliveries (recordNotes [] failedRecording.2).2.history =
        Activity.deliveries failedRecording.2.history ++ [("log", ⟨"1-next", "next"⟩)] :=
  ⟨rfl, by decide +kernel, by decide +kernel⟩

theorem failed_command_leftover_restless :
    failedRecording.1 = some (.error (.infrastructure "store down")) ∧
      failedRecording.2.buffer Broker.mainBus = [⟨"1-next", "next"⟩] ∧
      ∀ limit bus, ∃ flushed, (Broker.flush (limit + 1) bus failedRecording.2).2.history =
        failedRecording.2.history ++ .taken bus (failedRecording.2.buffer bus) :: flushed := by
  have failed : DirectBus.dispatch (A := notebook) 1
      (({} : Context).withEvents Broker.mainBus) .record ⟨[⟨"1", "start"⟩], none⟩
      (.flushing .discardOnFailure .container) restlessNotebook =
        (some (.error (.infrastructure "store down")), failedRecording.2) := rfl
  exact ⟨rfl, by decide +kernel, (failed_command_leftover failed).2.2.1⟩

end Sample

end Cqrs
