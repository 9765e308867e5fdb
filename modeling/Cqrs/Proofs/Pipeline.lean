/-
# Proofs.Pipeline -- the calls that a pipeline makes

A pipeline lays a session around a flushing layer around some way to carry out a command.
Whatever each of its parts comes to, it makes its calls in a fixed order (`Protocol`): it
opens a session first; then it carries out the command and flushes, each only after success;
it commits after success, and after any error it rolls back last of all.  The error it ends
with is the first one there was, whatever became of the rollback.

* `Passage.flushAround_cases`, `Passage.conclude_makes` -- the two layers, from the inside out;
* `Passage.run_cases` -- one command makes the calls of the protocol, or has no answer because
  one of its two inner parts has none;
* `Protocol.commit_iff`, `Protocol.rollback_iff`, `Protocol.rollback_last`, `Protocol.ok_iff`,
  `Protocol.first_error` -- when there is a commit, when a rollback, when the command succeeded,
  and with which error it failed.
-/
import Cqrs.Proofs.Growth

namespace Cqrs

set_option autoImplicit false

variable {A : Application} {α : Type}

/-! ## Sessions in the history -/

/-- The call to a unit of work that an activity is, and whether it succeeded. -/
def Activity.session? : Activity A → Option (String × SessionCall × Bool)
  | .session unit call succeeded => some (unit, call, succeeded)
  | _ => none

def Activity.sessions (history : List (Activity A)) : List (String × SessionCall × Bool) :=
  history.filterMap Activity.session?

theorem Activity.sessions_append (first second : List (Activity A)) :
    sessions (first ++ second) = sessions first ++ sessions second :=
  List.filterMap_append

theorem Activity.sessions_of_sessionless {history : List (Activity A)}
    (without : ∀ activity ∈ history, activity.Sessionless) : sessions history = [] := by
  apply List.filterMap_eq_nil_iff.mpr
  intro activity member
  have sessionless := without activity member
  cases activity with
  | session => exact sessionless.elim
  | _ => rfl

/-- A run that calls no unit of work, answered or not. -/
def Act.Sessionless (act : Act A α) : Prop :=
  ∀ broker, ∃ added, (act broker).2.history = broker.history ++ added ∧
    Activity.sessions added = []

theorem Broker.Grows.sessionless {batch : List A.Event} {before after : Broker A}
    (grows : Broker.Grows Activity.Sessionless batch before after) :
    ∃ added, after.history = before.history ++ added ∧ Activity.sessions added = [] := by
  obtain ⟨added, without, adds⟩ := grows
  exact ⟨added, adds.history, Activity.sessions_of_sessionless without⟩

theorem Broker.flush_sessionless (depth : Nat) (bus : BusId) :
    Act.Sessionless (A := A) (Broker.flush depth bus) := by
  intro broker
  have grows := Broker.flush_grows depth bus broker
  exact (grows.mono fun _ ofHandlers => ofHandlers.sessionless).sessionless

/-- No bus without transactions calls a unit of work. -/
theorem DirectBus.dispatch_sessionless (bus : DirectBus) (depth : Nat) (context : Context)
    (kind : A.Command) (payload : A.Payload kind) :
    Act.Sessionless (bus.dispatch depth context kind payload) := by
  intro broker
  exact (Broker.directDispatch_grows bus broker).sessionless

/-! ## Passages -/

/-- A command on its way through the standard pipeline around some way to carry it out, which
is one without transactions. -/
structure Passage (A : Application) where
  unit : UnitOfWork
  policy : FlushPolicy
  context : Context
  command : String
  inner : Act A (Except AppError Unit)
  sessionless : inner.Sessionless

/-- A call that a pipeline makes, with what came of it. -/
inductive PipelineCall where
  /-- A call to the unit of work. -/
  | session (call : SessionCall) (outcome : Except DomainError Unit)
  /-- The command carried out. -/
  | inner (outcome : Except AppError Unit)
  /-- The bus flushed. -/
  | flush (bus : BusId) (outcome : Except AppError Unit)
  /-- The events that wait on the bus dropped. -/
  | discard (bus : BusId)

namespace Passage

def run (depth : Nat) (passage : Passage A) : Act A (Except AppError Unit) :=
  CommandBus.sessionAround passage.unit passage.command
    (DirectBus.flushAround depth passage.policy passage.context passage.inner)

/-- The passage of a command through the pipeline around a bus without transactions. -/
def through (unit : UnitOfWork) (policy : FlushPolicy) (bus : DirectBus) (depth : Nat)
    (context : Context) (kind : A.Command) (payload : A.Payload kind) : Passage A where
  unit := unit
  policy := policy
  context := context
  command := A.commandName kind
  inner := bus.dispatch depth context kind payload
  sessionless := bus.dispatch_sessionless depth context kind payload

/-- The call leads from the one broker to the other. -/
def Leads (depth : Nat) (passage : Passage A) (before after : Broker A) : PipelineCall → Prop
  | .session call outcome => passage.unit.call call before = (some outcome, after)
  | .inner outcome => passage.inner before = (some outcome, after)
  | .flush bus outcome => Broker.flush depth bus before = (some outcome, after)
  | .discard bus => (before.discard bus).2 = after

/-- The calls lead from the one broker to the other, one after another and with nothing
between them but records of the log. -/
inductive Makes (depth : Nat) (passage : Passage A) :
    List PipelineCall → Broker A → Broker A → Prop
  | done (broker : Broker A) : Makes depth passage [] broker broker
  | logged {calls : List PipelineCall} {before after : Broker A} (record : LogRecord)
      (rest : Makes depth passage calls (before.record (.logged record)) after) :
      Makes depth passage calls before after
  | call {calls : List PipelineCall} {before middle after : Broker A} {call : PipelineCall}
      (leads : passage.Leads depth before middle call)
      (rest : Makes depth passage calls middle after) :
      Makes depth passage (call :: calls) before after

end Passage

/-- What becomes of the events of a command that failed. -/
def PipelineCall.cleanup (bus : BusId) : FlushPolicy → List PipelineCall
  | .discardOnFailure => [.discard bus]
  | .retainOnFailure => []

/-- The calls of a flushing layer and its outcome, for a request with an event bus or without. -/
inductive FlushProtocol (policy : FlushPolicy) :
    Option BusId → List PipelineCall → Except AppError Unit → Prop
  /-- There is no bus to flush, and the command is not carried out. -/
  | busless : FlushProtocol policy none [] (.error .missingEventBus)
  /-- The command failed. -/
  | failed (bus : BusId) (error : AppError) :
      FlushProtocol policy (some bus) (.inner (.error error) :: PipelineCall.cleanup bus policy)
        (.error error)
  /-- The command succeeded, and the outcome is that of the flush. -/
  | flushed (bus : BusId) (outcome : Except AppError Unit) :
      FlushProtocol policy (some bus) [.inner (.ok ()), .flush bus outcome] outcome

/-- The calls of a pipeline and its result.  The calls of the flushing layer stand between
those to the unit of work. -/
inductive Protocol (policy : FlushPolicy) (bus : Option BusId) :
    List PipelineCall → Except AppError Unit → Prop
  /-- No session was opened, and nothing else happens. -/
  | refused (failure : DomainError) :
      Protocol policy bus [.session .createSession (.error failure)] (.error (.domain failure))
  /-- The flushing layer ended in an error. -/
  | failed {calls : List PipelineCall} {error : AppError}
      (layer : FlushProtocol policy bus calls (.error error))
      (rolledBack : Except DomainError Unit) :
      Protocol policy bus
        (.session .createSession (.ok ()) :: (calls ++ [.session .rollback rolledBack]))
        (.error error)
  /-- The flushing layer succeeded, but not the commit. -/
  | uncommitted {calls : List PipelineCall} (layer : FlushProtocol policy bus calls (.ok ()))
      (failure : DomainError) (rolledBack : Except DomainError Unit) :
      Protocol policy bus
        (.session .createSession (.ok ()) ::
          (calls ++ [.session .commit (.error failure), .session .rollback rolledBack]))
        (.error (.domain failure))
  /-- Nothing failed. -/
  | committed {calls : List PipelineCall} (layer : FlushProtocol policy bus calls (.ok ())) :
      Protocol policy bus
        (.session .createSession (.ok ()) :: (calls ++ [.session .commit (.ok ())]))
        (.ok ())

/-- The error that a call ended in, if it did and is no rollback. -/
def PipelineCall.error? : PipelineCall → Option AppError
  | .session .rollback _ => none
  | .session _ (.error failure) => some (.domain failure)
  | .inner (.error error) => some error
  | .flush _ (.error error) => some error
  | _ => none

theorem PipelineCall.session_notMem_cleanup (call : SessionCall)
    (outcome : Except DomainError Unit) (bus : BusId) (policy : FlushPolicy) :
    .session call outcome ∉ cleanup bus policy := by
  cases policy with
  | discardOnFailure => simp [cleanup]
  | retainOnFailure => simp [cleanup]

namespace FlushProtocol

variable {policy : FlushPolicy} {bus : Option BusId} {calls : List PipelineCall}
  {outcome : Except AppError Unit}

/-- A flushing layer makes no call to a unit of work. -/
theorem session_notMem (layer : FlushProtocol policy bus calls outcome) (call : SessionCall)
    (answer : Except DomainError Unit) : .session call answer ∉ calls := by
  cases layer with
  | busless => simp
  | failed bus error => simp [PipelineCall.session_notMem_cleanup]
  | flushed bus outcome => simp

/-- The outcome is a success exactly where the command and the flush succeeded. -/
theorem ok_iff (layer : FlushProtocol policy bus calls outcome) :
    outcome = .ok () ↔ .inner (.ok ()) ∈ calls ∧ ∃ bus, .flush bus (.ok ()) ∈ calls := by
  cases layer with
  | busless => simp
  | failed bus error =>
      cases policy with
      | discardOnFailure => simp [PipelineCall.cleanup]
      | retainOnFailure => simp [PipelineCall.cleanup]
  | flushed bus outcome => simp [eq_comm]

end FlushProtocol

namespace Protocol

variable {policy : FlushPolicy} {bus : Option BusId} {calls : List PipelineCall}
  {result : Except AppError Unit}

/-- There is a commit exactly after the command and the flush succeeded. -/
theorem commit_iff (protocol : Protocol policy bus calls result) :
    (∃ outcome, .session .commit outcome ∈ calls) ↔
      .inner (.ok ()) ∈ calls ∧ ∃ bus, .flush bus (.ok ()) ∈ calls := by
  cases protocol with
  | refused failure => simp
  | @failed calls error layer rolledBack =>
      have failed : ¬(.inner (.ok ()) ∈ calls ∧ ∃ bus, .flush bus (.ok ()) ∈ calls) :=
        fun both => nomatch layer.ok_iff.mpr both
      simpa [layer.session_notMem] using failed
  | uncommitted layer failure rolledBack =>
      have succeeded := layer.ok_iff.mp rfl
      simpa [layer.session_notMem] using succeeded
  | committed layer =>
      have succeeded := layer.ok_iff.mp rfl
      simpa [layer.session_notMem] using succeeded

/-- There is a rollback exactly where a session was opened and the end is an error. -/
theorem rollback_iff (protocol : Protocol policy bus calls result) :
    (∃ outcome, .session .rollback outcome ∈ calls) ↔
      .session .createSession (.ok ()) ∈ calls ∧ result ≠ .ok () := by
  cases protocol with
  | refused failure => simp
  | failed layer rolledBack => simp
  | uncommitted layer failure rolledBack => simp
  | committed layer => simp [layer.session_notMem]

/-- A rollback is the last call, so there is no more than one. -/
theorem rollback_last (protocol : Protocol policy bus calls result)
    (outcome : Except DomainError Unit) : .session .rollback outcome ∉ calls.dropLast := by
  cases protocol with
  | refused failure => simp
  | failed layer rolledBack =>
      rw [← List.cons_append, List.dropLast_concat]
      simp [layer.session_notMem]
  | @uncommitted calls layer failure rolledBack =>
      have split : calls ++ [.session .commit (.error failure), .session .rollback rolledBack] =
          calls ++ [.session .commit (.error failure)] ++ [.session .rollback rolledBack] := by
        simp
      rw [split, ← List.cons_append, List.dropLast_concat]
      simp [layer.session_notMem]
  | committed layer =>
      rw [← List.cons_append, List.dropLast_concat]
      simp [layer.session_notMem]

/-- An error at the end is the first one there was before a rollback, or that of a request
without an event bus. -/
theorem first_error {error : AppError} (protocol : Protocol policy bus calls (.error error)) :
    calls.findSome? PipelineCall.error? = some error ∨
      bus = none ∧ error = .missingEventBus ∧
        ∃ rolledBack,
          calls = [.session .createSession (.ok ()), .session .rollback rolledBack] := by
  cases protocol with
  | refused failure => exact Or.inl rfl
  | failed layer rolledBack =>
      cases layer with
      | busless => exact Or.inr ⟨rfl, rfl, rolledBack, rfl⟩
      | failed bus error => exact Or.inl rfl
      | flushed bus => exact Or.inl rfl
  | uncommitted layer failure rolledBack =>
      cases layer with
      | flushed bus => exact Or.inl rfl

/-- The command succeeded exactly if the commit did. -/
theorem ok_iff (protocol : Protocol policy bus calls result) :
    result = .ok () ↔ .session .commit (.ok ()) ∈ calls := by
  cases protocol with
  | refused failure => simp
  | failed layer rolledBack => simp [layer.session_notMem]
  | uncommitted layer failure rolledBack => simp [layer.session_notMem]
  | committed layer => simp

end Protocol

/-! ## One passage -/

namespace Passage

variable {depth : Nat} {passage : Passage A}

theorem Makes.trans {first second : List PipelineCall} {a b c : Broker A}
    (one : passage.Makes depth first a b) (two : passage.Makes depth second b c) :
    passage.Makes depth (first ++ second) a c := by
  induction one with
  | done broker => exact two
  | logged record rest ih => exact .logged record (ih two)
  | call leads rest ih => exact .call leads (ih two)

theorem Makes.one {before after : Broker A} {call : PipelineCall}
    (leads : passage.Leads depth before after call) :
    passage.Makes depth [call] before after :=
  .call leads (.done after)

/-- The layers inside the session have no answer, because the command has none or, after its
success, the flush. -/
inductive Unanswered (depth : Nat) (passage : Passage A) (before after : Broker A) : Prop
  | inner (stuck : passage.inner before = (none, after))
  | flush (bus : BusId) (middle : Broker A) (present : passage.context.events = some bus)
      (answered : passage.inner before = (some (.ok ()), middle))
      (stuck : Broker.flush depth bus middle = (none, after))

/-- A unit of work always answers. -/
theorem call_answers (unit : UnitOfWork) (call : SessionCall) (broker : Broker A) :
    ∃ outcome after, unit.call call broker = (some outcome, after) := by
  unfold UnitOfWork.call
  split
  · exact ⟨_, _, rfl⟩
  · exact ⟨_, _, rfl⟩

/-- After an error a session ends in that error, whatever came of the rollback. -/
theorem conclude_error (unit : UnitOfWork) (command : String) (error : AppError)
    (broker : Broker A) :
    (CommandBus.conclude unit command (.error error) broker).1 = some (.error error) := by
  obtain ⟨rolledBack, after, answered⟩ := call_answers unit .rollback
    (broker.record (.logged ⟨.warn, "rolling back unit of work",
      [("command", .text command), ("error", .text error.message)]⟩))
  refine congrArg Prod.fst ((Act.bind_of_some rfl).trans (Act.bind_of_some answered)) |>.trans ?_
  cases rolledBack <;> rfl

/-- After an error the flushing layer drops the events or keeps them. -/
theorem settle_error_makes (depth : Nat) (passage : Passage A) (bus : BusId) (error : AppError)
    (before : Broker A) :
    ∃ after, DirectBus.settle depth passage.policy bus (.error error) before =
        (some (.error error), after) ∧
      passage.Makes depth (PipelineCall.cleanup bus passage.policy) before after := by
  cases passage.policy with
  | discardOnFailure =>
      have makes : passage.Makes depth [.discard bus] before (before.discard bus).2 := .one rfl
      exact ⟨_, rfl, makes⟩
  | retainOnFailure => exact ⟨before, rfl, .done before⟩

/-- The flushing layer makes the calls of its protocol, or it has no answer. -/
theorem flushAround_cases (depth : Nat) (passage : Passage A) (before : Broker A) :
    (∃ calls outcome after,
      DirectBus.flushAround depth passage.policy passage.context passage.inner before =
          (some outcome, after) ∧
        passage.Makes depth calls before after ∧
        FlushProtocol passage.policy passage.context.events calls outcome) ∨
    ∃ after,
      DirectBus.flushAround depth passage.policy passage.context passage.inner before =
          (none, after) ∧
        passage.Unanswered depth before after := by
  cases present : passage.context.events with
  | none =>
      refine Or.inl ⟨[], .error .missingEventBus, before, ?_, .done before, .busless⟩
      simp only [DirectBus.flushAround, Context.eventBus, present]
      rfl
  | some bus =>
      have unfolded : DirectBus.flushAround depth passage.policy passage.context passage.inner =
          passage.inner.bind (DirectBus.settle depth passage.policy bus) := by
        simp only [DirectBus.flushAround, Context.eventBus, present]
      rw [unfolded]
      rcases carried : passage.inner before with ⟨_ | (error | _), middle⟩
      · exact Or.inr ⟨middle, Act.bind_of_none carried, .inner carried⟩
      · obtain ⟨after, settled, cleaned⟩ := settle_error_makes depth passage bus error middle
        have makes : passage.Makes depth
            (.inner (.error error) :: PipelineCall.cleanup bus passage.policy) before after :=
          .call carried cleaned
        exact Or.inl ⟨_, _, after, (Act.bind_of_some carried).trans settled, makes,
          .failed bus error⟩
      · rcases flushed : Broker.flush depth bus middle with ⟨_ | outcome, after⟩
        · exact Or.inr ⟨after, (Act.bind_of_some carried).trans flushed,
            .flush bus middle present carried flushed⟩
        · have makes : passage.Makes depth [.inner (.ok ()), .flush bus outcome] before after :=
            .call carried (.one flushed)
          exact Or.inl ⟨_, outcome, after, (Act.bind_of_some carried).trans flushed, makes,
            .flushed bus outcome⟩

/-- Giving up rolls back and ends with the error there was, whatever came of the rollback. -/
theorem giveUp_makes (depth : Nat) (passage : Passage A) (error : AppError)
    (before : Broker A) :
    ∃ rolledBack after,
      CommandBus.giveUp passage.unit passage.command error before = (some (.error error), after) ∧
        passage.Makes depth [.session .rollback rolledBack] before after := by
  obtain ⟨rolledBack, middle, answered⟩ := call_answers passage.unit .rollback
    (before.record (.logged ⟨.warn, "rolling back unit of work",
      [("command", .text passage.command), ("error", .text error.message)]⟩))
  cases rolledBack with
  | ok =>
      refine ⟨.ok (), middle, ?_, .logged _ (.one answered)⟩
      exact (Act.bind_of_some rfl).trans (Act.bind_of_some answered)
  | error failure =>
      refine ⟨.error failure, middle.record (.logged ⟨.error, "rollback failed",
        [("command", .text passage.command), ("error", .text failure.message)]⟩), ?_,
        .logged _ (.call answered (.logged _ (.done _)))⟩
      exact (Act.bind_of_some rfl).trans (Act.bind_of_some answered)

/-- What follows an outcome of the layers inside the session: after a success a commit, and
after an error, also that of the commit, a rollback. -/
theorem conclude_makes (depth : Nat) (passage : Passage A) (outcome : Except AppError Unit)
    (before : Broker A) :
    ∃ calls result after,
      CommandBus.conclude passage.unit passage.command outcome before = (some result, after) ∧
        passage.Makes depth calls before after ∧
        ((∃ error rolledBack, outcome = .error error ∧ result = .error error ∧
            calls = [.session .rollback rolledBack]) ∨
          (∃ failure rolledBack, outcome = .ok () ∧ result = .error (.domain failure) ∧
            calls = [.session .commit (.error failure), .session .rollback rolledBack]) ∨
          outcome = .ok () ∧ result = .ok () ∧ calls = [.session .commit (.ok ())]) := by
  cases outcome with
  | error error =>
      obtain ⟨rolledBack, after, gaveUp, makes⟩ := giveUp_makes depth passage error before
      exact ⟨_, _, after, gaveUp, makes, Or.inl ⟨error, rolledBack, rfl, rfl, rfl⟩⟩
  | ok =>
      obtain ⟨committed, middle, answered⟩ := call_answers passage.unit .commit before
      cases committed with
      | ok =>
          have makes : passage.Makes depth [.session .commit (.ok ())] before middle :=
            .one answered
          exact ⟨_, _, middle, Act.bind_of_some answered, makes, Or.inr (Or.inr ⟨rfl, rfl, rfl⟩)⟩
      | error failure =>
          obtain ⟨rolledBack, after, gaveUp, makes⟩ :=
            giveUp_makes depth passage (.domain failure) middle
          have both : passage.Makes depth
              [.session .commit (.error failure), .session .rollback rolledBack] before after :=
            .call answered makes
          exact ⟨_, _, after, (Act.bind_of_some answered).trans gaveUp, both,
            Or.inr (Or.inl ⟨failure, rolledBack, rfl, rfl, rfl⟩)⟩

/-- One command through the pipeline makes the calls of the protocol with their result, or it
has no answer because a layer inside its session has none. -/
theorem run_cases (depth : Nat) (passage : Passage A) (before : Broker A) :
    (∃ calls result after, passage.run depth before = (some result, after) ∧
      passage.Makes depth calls before after ∧
      Protocol passage.policy passage.context.events calls result) ∨
    ∃ opened after, passage.run depth before = (none, after) ∧
      passage.Leads depth before opened (.session .createSession (.ok ())) ∧
      passage.Unanswered depth opened after := by
  obtain ⟨outcome, opened, answered⟩ := call_answers passage.unit .createSession before
  cases outcome with
  | error failure =>
      have makes : passage.Makes depth [.session .createSession (.error failure)] before opened :=
        .one answered
      exact Or.inl ⟨_, _, opened, Act.bind_of_some answered, makes, .refused failure⟩
  | ok =>
      have started : passage.run depth before = Act.bind
          (DirectBus.flushAround depth passage.policy passage.context passage.inner)
          (CommandBus.conclude passage.unit passage.command) opened :=
        Act.bind_of_some answered
      rw [started]
      rcases flushAround_cases depth passage opened with
        ⟨calls, outcome, middle, layered, makes, layer⟩ | ⟨after, stuck, unanswered⟩
      · rw [Act.bind_of_some layered]
        obtain ⟨last, result, after, concluded, ending, cases⟩ :=
          conclude_makes depth passage outcome middle
        have all : passage.Makes depth (.session .createSession (.ok ()) :: (calls ++ last))
            before after := .call answered (makes.trans ending)
        refine Or.inl ⟨_, result, after, concluded, all, ?_⟩
        rcases cases with ⟨error, rolledBack, rfl, rfl, rfl⟩ |
          ⟨failure, rolledBack, rfl, rfl, rfl⟩ | ⟨rfl, rfl, rfl⟩
        · exact .failed layer rolledBack
        · exact .uncommitted layer failure rolledBack
        · exact .committed layer
      · exact Or.inr ⟨opened, after, Act.bind_of_none stuck, answered, unanswered⟩

end Passage

end Cqrs
