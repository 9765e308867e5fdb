/-
# Proofs.SessionProtocol -- the sessions that pipelines open are closed

The history tells of the calls to units of work and of nothing that was not made
(`Passage.Makes.sessions`).  As every pipeline keeps to its protocol, the calls of many
commands in a row are those of one session after another, each refused, committed or rolled
back (`Settled`); only a run without an answer leaves a session open, and that is its last one
(`Closed`).

* `Passage.run_closed`, `Passage.each_closed` -- one command, and any commands in a row;
* `Settled.balance` -- as many sessions were opened as were committed or rolled back;
* `transaction_protocol` -- the calls and the sessions together, for the pipelines around every
  bus without transactions.
-/
import Cqrs.Proofs.Pipeline

namespace Cqrs

set_option autoImplicit false

variable {A : Application} {α : Type}

/-! ## What the history tells -/

namespace Passage

variable {depth : Nat} {passage : Passage A}

/-- The call to the unit of work that a call of a pipeline is, and whether it succeeded. -/
def session? (passage : Passage A) : PipelineCall → Option (String × SessionCall × Bool)
  | .session call outcome => some (passage.unit.name, call, outcome.toBool)
  | _ => none

theorem Leads.sessions {before after : Broker A} {call : PipelineCall}
    (leads : passage.Leads depth before after call) :
    ∃ added, after.history = before.history ++ added ∧
      Activity.sessions added = (passage.session? call).toList := by
  cases call with
  | session call outcome =>
      have answered : passage.unit.call call before = (some outcome, after) := leads
      unfold UnitOfWork.call at answered
      split at answered
      · cases answered
        exact ⟨[.session passage.unit.name call true], rfl, rfl⟩
      · cases answered
        exact ⟨[.session passage.unit.name call false], rfl, rfl⟩
  | inner outcome =>
      obtain ⟨added, history, none⟩ := passage.sessionless before
      have answered : passage.inner before = (some outcome, after) := leads
      rw [answered] at history
      exact ⟨added, history, none⟩
  | flush bus outcome =>
      obtain ⟨added, history, none⟩ := Broker.flush_sessionless depth bus before
      have answered : Broker.flush depth bus before = (some outcome, after) := leads
      rw [answered] at history
      exact ⟨added, history, none⟩
  | discard bus =>
      have dropped : (before.discard bus).2 = after := leads
      rw [← dropped]
      exact ⟨[.taken bus (before.buffer bus)], rfl, rfl⟩

/-- The history tells of the calls to the unit of work that were made, and of no others. -/
theorem Makes.sessions {calls : List PipelineCall} {before after : Broker A}
    (makes : passage.Makes depth calls before after) :
    ∃ added, after.history = before.history ++ added ∧
      Activity.sessions added = calls.filterMap passage.session? := by
  induction makes with
  | done broker => exact ⟨[], (List.append_nil _).symm, rfl⟩
  | @logged calls before after record rest ih =>
      obtain ⟨added, history, sessions⟩ := ih
      refine ⟨.logged record :: added, ?_, sessions⟩
      rw [history]
      exact List.append_assoc _ [_] _
  | call leads rest ih =>
      obtain ⟨first, before, one⟩ := leads.sessions
      obtain ⟨second, after, two⟩ := ih
      refine ⟨first ++ second, by rw [after, before, List.append_assoc], ?_⟩
      rw [Activity.sessions_append, one, two, List.filterMap_cons]
      cases passage.session? _ with
      | none => rfl
      | some entry => rfl

theorem Unanswered.sessions {before after : Broker A}
    (unanswered : passage.Unanswered depth before after) :
    ∃ added, after.history = before.history ++ added ∧ Activity.sessions added = [] := by
  cases unanswered with
  | inner stuck =>
      obtain ⟨added, history, none⟩ := passage.sessionless before
      rw [stuck] at history
      exact ⟨added, history, none⟩
  | flush bus middle present answered stuck =>
      obtain ⟨first, before, one⟩ := passage.sessionless before
      obtain ⟨second, after, two⟩ := Broker.flush_sessionless depth bus middle
      rw [answered] at before
      rw [stuck] at after
      refine ⟨first ++ second, by rw [after, before, List.append_assoc], ?_⟩
      rw [Activity.sessions_append, one, two, List.append_nil]

end Passage

/-! ## Many passages -/

/-- Calls to units of work where every session that was opened is closed once, by a commit that
succeeded or by a rollback, before any other is opened. -/
inductive Settled : List (String × SessionCall × Bool) → Prop
  | nil : Settled []
  | refused (unit : String) {rest : List (String × SessionCall × Bool)}
      (settled : Settled rest) : Settled ((unit, .createSession, false) :: rest)
  | committed (unit : String) {rest : List (String × SessionCall × Bool)}
      (settled : Settled rest) :
      Settled ((unit, .createSession, true) :: (unit, .commit, true) :: rest)
  | rolledBack (unit : String) (succeeded : Bool) {rest : List (String × SessionCall × Bool)}
      (settled : Settled rest) :
      Settled ((unit, .createSession, true) :: (unit, .rollback, succeeded) :: rest)
  | uncommitted (unit : String) (succeeded : Bool) {rest : List (String × SessionCall × Bool)}
      (settled : Settled rest) :
      Settled ((unit, .createSession, true) :: (unit, .commit, false) ::
        (unit, .rollback, succeeded) :: rest)

namespace Settled

variable {first second : List (String × SessionCall × Bool)}

theorem append (one : Settled first) (two : Settled second) : Settled (first ++ second) := by
  induction one with
  | nil => exact two
  | refused unit settled ih => exact .refused unit ih
  | committed unit settled ih => exact .committed unit ih
  | rolledBack unit succeeded settled ih => exact .rolledBack unit succeeded ih
  | uncommitted unit succeeded settled ih => exact .uncommitted unit succeeded ih

/-- As many sessions were opened as were committed or rolled back, of every unit of work. -/
theorem balance (settled : Settled first) (unit : String) :
    first.count (unit, .createSession, true) =
      first.count (unit, .commit, true) + first.count (unit, .rollback, true) +
        first.count (unit, .rollback, false) := by
  induction settled with
  | nil => rfl
  | refused other settled ih => simpa using ih
  | committed other settled ih =>
      by_cases same : other = unit
      · subst same
        simp [ih]
        omega
      · simp [ih, same]
  | rolledBack other succeeded settled ih =>
      by_cases same : other = unit
      · subst same
        cases succeeded with
        | true =>
            simp [ih]
            omega
        | false =>
            simp [ih]
            omega
      · simp [ih, same]
  | uncommitted other succeeded settled ih =>
      by_cases same : other = unit
      · subst same
        cases succeeded with
        | true =>
            simp [ih]
            omega
        | false =>
            simp [ih]
            omega
      · simp [ih, same]

end Settled

/-- The calls of a flushing layer are none to a unit of work. -/
theorem FlushProtocol.sessions {policy : FlushPolicy} {bus : Option BusId}
    {calls : List PipelineCall} {outcome : Except AppError Unit}
    (layer : FlushProtocol policy bus calls outcome) (passage : Passage A) :
    calls.filterMap passage.session? = [] := by
  apply List.filterMap_eq_nil_iff.mpr
  intro call member
  cases call with
  | session call outcome => exact absurd member (layer.session_notMem call outcome)
  | inner | flush | discard => rfl

/-- The calls of one pipeline close the session that they open. -/
theorem Protocol.settled {policy : FlushPolicy} {bus : Option BusId}
    {calls : List PipelineCall} {result : Except AppError Unit}
    (protocol : Protocol policy bus calls result) (passage : Passage A) :
    Settled (calls.filterMap passage.session?) := by
  cases protocol with
  | refused failure => exact .refused _ .nil
  | failed layer rolledBack =>
      have settled : Settled [(passage.unit.name, .createSession, true),
          (passage.unit.name, .rollback, rolledBack.toBool)] := .rolledBack _ _ .nil
      simpa [Passage.session?, layer.sessions, Except.toBool] using settled
  | uncommitted layer failure rolledBack =>
      have settled : Settled [(passage.unit.name, .createSession, true),
          (passage.unit.name, .commit, false),
          (passage.unit.name, .rollback, rolledBack.toBool)] := .uncommitted _ _ .nil
      simpa [Passage.session?, layer.sessions, Except.toBool] using settled
  | committed layer =>
      have settled : Settled [(passage.unit.name, .createSession, true),
          (passage.unit.name, .commit, true)] := .committed _ .nil
      simpa [Passage.session?, layer.sessions, Except.toBool] using settled

/-- All sessions are closed after a run that has an answer; one without an answer leaves the
session open in which it came to its end, and no other. -/
def Closed (answer : Option α) (calls : List (String × SessionCall × Bool)) : Prop :=
  match answer with
  | some _ => Settled calls
  | none => ∃ settled unit, Settled settled ∧ calls = settled ++ [(unit, .createSession, true)]

theorem Closed.map {β : Type} (f : α → β) {answer : Option α}
    {calls : List (String × SessionCall × Bool)} (closed : Closed answer calls) :
    Closed (answer.map f) calls := by
  cases answer with
  | some answer => exact closed
  | none => exact closed

theorem Closed.after {answer : Option α} {first calls : List (String × SessionCall × Bool)}
    (settled : Settled first) (closed : Closed answer calls) : Closed answer (first ++ calls) := by
  cases answer with
  | some answer => exact settled.append closed
  | none =>
      obtain ⟨rest, unit, later, rfl⟩ := closed
      exact ⟨first ++ rest, unit, settled.append later, (List.append_assoc ..).symm⟩

namespace Passage

/-- One passage closes the session that it opens, or has no answer and leaves it open. -/
theorem run_closed (depth : Nat) (passage : Passage A) (before : Broker A) :
    ∃ added, (passage.run depth before).2.history = before.history ++ added ∧
      Closed (passage.run depth before).1 (Activity.sessions added) := by
  rcases passage.run_cases depth before with
    ⟨calls, result, after, ran, makes, protocol⟩ | ⟨opened, after, ran, opening, unanswered⟩
  · obtain ⟨added, history, sessions⟩ := makes.sessions
    rw [ran]
    refine ⟨added, history, ?_⟩
    rw [sessions]
    exact protocol.settled passage
  · obtain ⟨first, before, one⟩ := opening.sessions
    obtain ⟨second, history, none⟩ := unanswered.sessions
    rw [ran]
    refine ⟨first ++ second, by rw [history, before, List.append_assoc], [],
      passage.unit.name, .nil, ?_⟩
    rw [Activity.sessions_append, one, none, List.append_nil]
    rfl

/-- So do any passages in a row. -/
theorem each_closed (depth : Nat) (passages : List (Passage A)) (before : Broker A) :
    ∃ added, (Act.each (passages.map (run depth)) before).2.history = before.history ++ added ∧
      Closed (Act.each (passages.map (run depth)) before).1 (Activity.sessions added) := by
  induction passages generalizing before with
  | nil => exact ⟨[], (List.append_nil _).symm, .nil⟩
  | cons passage rest ih =>
      obtain ⟨first, history, closed⟩ := passage.run_closed depth before
      rcases ran : passage.run depth before with ⟨_ | result, middle⟩
      · -- the run ends here, and the session that is open is its last one
        rw [ran] at history closed
        rw [List.map_cons, Act.each_of_none ran]
        exact ⟨first, history, closed⟩
      · rw [ran] at history closed
        obtain ⟨second, later, others⟩ := ih middle
        rw [List.map_cons, Act.each_of_some ran]
        refine ⟨first ++ second, ?_, ?_⟩
        · rw [later, history, List.append_assoc]
        · rw [Activity.sessions_append]
          exact (others.after closed).map _

/-- How one command went through the pipeline: the calls that it made, and what they tell of the
result. -/
structure Conducted (depth : Nat) (passage : Passage A) (before : Broker A)
    (calls : List PipelineCall) (result : Except AppError Unit) (after : Broker A) : Prop where
  ran : passage.run depth before = (some result, after)
  makes : passage.Makes depth calls before after
  protocol : Protocol passage.policy passage.context.events calls result
  commit_iff : (∃ outcome, .session .commit outcome ∈ calls) ↔
    .inner (.ok ()) ∈ calls ∧ ∃ bus, .flush bus (.ok ()) ∈ calls
  rollback_iff : (∃ outcome, .session .rollback outcome ∈ calls) ↔
    .session .createSession (.ok ()) ∈ calls ∧ result ≠ .ok ()
  rollback_last : ∀ outcome, .session .rollback outcome ∉ calls.dropLast
  ok_iff : result = .ok () ↔ .session .commit (.ok ()) ∈ calls
  first_error : ∀ error, result = .error error →
    calls.findSome? PipelineCall.error? = some error ∨
      passage.context.events = none ∧ error = .missingEventBus ∧
        ∃ rolledBack, calls = [.session .createSession (.ok ()), .session .rollback rolledBack]

theorem conducted_or_unanswered (depth : Nat) (passage : Passage A) (before : Broker A) :
    (∃ calls result after, passage.Conducted depth before calls result after) ∨
    ∃ opened after, passage.run depth before = (none, after) ∧
      passage.Leads depth before opened (.session .createSession (.ok ())) ∧
      passage.Unanswered depth opened after := by
  rcases passage.run_cases depth before with ⟨calls, result, after, ran, makes, protocol⟩ | stuck
  · refine Or.inl ⟨calls, result, after, ran, makes, protocol, protocol.commit_iff,
      protocol.rollback_iff, protocol.rollback_last, protocol.ok_iff, ?_⟩
    intro error failed
    rw [failed] at protocol
    exact protocol.first_error
  · exact Or.inr stuck

end Passage

/-- **The protocol of a pipeline.**  One command makes the calls of the protocol, unless a layer
inside the session has no answer.  Over any commands in a row, every session that was opened is
closed by one commit that succeeds or by one rollback.  The pipeline around any bus without
transactions is such a passage. -/
theorem transaction_protocol (depth : Nat) :
    (∀ (passage : Passage A) (before : Broker A),
      (∃ calls result after, passage.Conducted depth before calls result after) ∨
      ∃ opened after, passage.run depth before = (none, after) ∧
        passage.Leads depth before opened (.session .createSession (.ok ())) ∧
        passage.Unanswered depth opened after) ∧
    (∀ (passages : List (Passage A)) (before : Broker A),
      let run := Act.each (passages.map (Passage.run depth)) before
      ∃ added, run.2.history = before.history ++ added ∧
        Closed run.1 (Activity.sessions added) ∧
        ∀ answers, run.1 = some answers → ∀ unit,
          (Activity.sessions added).count (unit, .createSession, true) =
            (Activity.sessions added).count (unit, .commit, true) +
              (Activity.sessions added).count (unit, .rollback, true) +
              (Activity.sessions added).count (unit, .rollback, false)) ∧
    ∀ (unit : UnitOfWork) (policy : FlushPolicy) (bus : DirectBus) (context : Context)
      (kind : A.Command) (payload : A.Payload kind),
      (CommandBus.pipeline unit policy bus).dispatch depth context kind payload =
        (Passage.through unit policy bus depth context kind payload).run depth := by
  refine ⟨fun passage before => passage.conducted_or_unanswered depth before, ?_, ?_⟩
  · intro passages before run
    obtain ⟨added, history, closed⟩ := Passage.each_closed depth passages before
    refine ⟨added, history, closed, fun answers answered unit => ?_⟩
    have settled : Settled (Activity.sessions added) := by
      have ended : Closed run.1 (Activity.sessions added) := closed
      rw [answered] at ended
      exact ended
    exact settled.balance unit
  · intro unit policy bus context kind payload
    rfl

end Cqrs
