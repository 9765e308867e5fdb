/-
# Proofs.Layers -- events are flushed inside of all transactions

A stack of layers has the container in its middle, flushing layers around that, and transactional
layers around those, each with a unit of work of its own (`CommandBus`).  Whatever the handlers and
the units of work come to, a dispatch makes its calls like brackets: a session that was opened is
closed once, by its own commit or its own rollback, and not before all sessions inside of it
(`Bracketed`).  The first error that is not one of a rollback is the result, and nothing but
dropping events and rolling back comes after it (`Ended`).

* `Dispatch.direct_went`, `Dispatch.went` -- a dispatch makes such calls, from the inside out;
* `Dispatch.Makes.told` -- the history tells of these calls and of what came before each delivery;
* `flushed_inside_transactions` -- no event is given to a handler before all sessions are open or
  after one of them was committed or rolled back.
-/
import Cqrs.Proofs.Brackets
import Cqrs.Proofs.Leftover
import Cqrs.Proofs.Pipeline

namespace Cqrs

set_option autoImplicit false

variable {A : Application}

/-! ## Calls -/

/-- The units of work of the transactional layers, innermost first.  A layer goes by its place
in this row. -/
def CommandBus.units : CommandBus → List UnitOfWork
  | .direct _ => []
  | .transactional unit inner => inner.units ++ [unit]

namespace Dispatch

/-- The same command on its way to another bus. -/
def onBus (dispatch : Dispatch A) (bus : CommandBus) : Dispatch A :=
  { dispatch with bus := bus }

/-- The call leads from the one broker to the other. -/
def Leads (depth : Nat) (dispatch : Dispatch A) (before after : Broker A) : StackCall → Prop
  | .session layer call outcome => ∃ unit, dispatch.bus.units[layer]? = some unit ∧
      unit.call call before = (some outcome, after)
  | .seek outcome => dispatch.context.eventBus = outcome ∧ before = after
  | .command outcome => Broker.dispatch depth dispatch.context dispatch.kind dispatch.payload
      before = (some outcome, after)
  | .flush bus outcome => Broker.flush depth bus before = (some outcome, after)
  | .discard bus => (before.discard bus).2 = after

/-- The calls lead from the one broker to the other, one after another and with nothing
between them but records of the log. -/
inductive Makes (depth : Nat) (dispatch : Dispatch A) : List StackCall → Broker A → Broker A → Prop
  | done (broker : Broker A) : Makes depth dispatch [] broker broker
  | logged {calls : List StackCall} {before after : Broker A} (record : LogRecord)
      (rest : Makes depth dispatch calls (before.record (.logged record)) after) :
      Makes depth dispatch calls before after
  | call {calls : List StackCall} {before middle after : Broker A} {call : StackCall}
      (leads : dispatch.Leads depth before middle call)
      (rest : Makes depth dispatch calls middle after) :
      Makes depth dispatch (call :: calls) before after

variable {depth : Nat} {dispatch : Dispatch A}

theorem Makes.one {before after : Broker A} {call : StackCall}
    (leads : dispatch.Leads depth before after call) : dispatch.Makes depth [call] before after :=
  .call leads (.done after)

theorem Makes.trans {first second : List StackCall} {a b c : Broker A}
    (one : dispatch.Makes depth first a b) (two : dispatch.Makes depth second b c) :
    dispatch.Makes depth (first ++ second) a c := by
  induction one with
  | done broker => exact two
  | logged record rest ih => exact .logged record (ih two)
  | call leads rest ih => exact .call leads (ih two)

/-- What a stack does, it also does inside of more layers. -/
theorem Makes.within {calls : List StackCall} {before after : Broker A} {outer : CommandBus}
    (makes : dispatch.Makes depth calls before after)
    (inside : dispatch.bus.units <+: outer.units) :
    (dispatch.onBus outer).Makes depth calls before after := by
  induction makes with
  | done broker => exact .done broker
  | logged record rest ih => exact .logged record ih
  | @call calls before middle after call leads rest ih =>
      refine .call ?_ ih
      cases call with
      | session layer call outcome =>
          obtain ⟨unit, held, called⟩ := leads
          obtain ⟨further, same⟩ := inside
          obtain ⟨present, _⟩ := List.getElem?_eq_some_iff.mp held
          refine ⟨unit, ?_, called⟩
          show outer.units[layer]? = some unit
          rw [← same, List.getElem?_append_left present, held]
      | seek | command | flush | discard => exact leads

end Dispatch

/-! ## Dispatches -/

/-- A call of a pipeline as one of the stack, where the pipeline's session is that of a layer. -/
def StackCall.ofPipeline (layer : Nat) : PipelineCall → StackCall
  | .session call outcome => .session layer call outcome
  | .inner outcome => .command outcome
  | .flush bus outcome => .flush bus outcome
  | .discard bus => .discard bus

namespace Dispatch

variable {depth : Nat}

/-- How a dispatch went that has a result: the calls that it made, in brackets and up to the first
error. -/
structure Conducted (depth : Nat) (dispatch : Dispatch A) (before : Broker A)
    (calls : List StackCall) (result : Except AppError Unit) (after : Broker A) : Prop where
  ran : dispatch.run depth before = (some result, after)
  makes : dispatch.Makes depth calls before after
  bracketed : Bracketed dispatch.bus.units.length calls
  ended : Ended calls result

/-- How a dispatch went that has no result: it opened the sessions of all layers and met with no
error, and then the container or a flush had no answer. -/
structure Unanswered (depth : Nat) (dispatch : Dispatch A) (before : Broker A)
    (calls : List StackCall) (middle after : Broker A) : Prop where
  ran : dispatch.run depth before = (none, after)
  makes : dispatch.Makes depth calls before middle
  opened : Opened dispatch.bus.units.length calls
  faultless : ∀ call ∈ calls, call.error? = none
  stuck : Broker.dispatch depth dispatch.context dispatch.kind dispatch.payload middle =
      (none, after) ∨ ∃ bus, Broker.flush depth bus middle = (none, after)

/-- A dispatch went in the one way or in the other. -/
def Went (depth : Nat) (dispatch : Dispatch A) (before : Broker A) : Prop :=
  (∃ calls result after, dispatch.Conducted depth before calls result after) ∨
    ∃ calls middle after, dispatch.Unanswered depth before calls middle after

/-- The container makes one call. -/
theorem container_went (dispatch : Dispatch A) (before : Broker A) :
    (dispatch.onBus (.direct .container)).Went depth before := by
  rcases ran : Broker.dispatch depth dispatch.context dispatch.kind dispatch.payload before with
    ⟨_ | result, after⟩
  · exact Or.inr ⟨[], before, after, ran, .done before, ⟨[], rfl, nofun⟩, nofun, Or.inl ran⟩
  · have leads : (dispatch.onBus (.direct .container)).Leads depth before after
        (.command result) := ran
    refine Or.inl ⟨_, result, after, ran, .one leads, .direct ?_, ?_⟩
    · simp [StackCall.Sessionless]
    · cases result with
      | ok => exact .ok (by simp [StackCall.error?])
      | error error => exact .failure rfl

/-! ### A flushing layer -/

section Flushing

variable {dispatch : Dispatch A} {policy : FlushPolicy} {inner : DirectBus} {bus : BusId}
  {before middle : Broker A} {calls : List StackCall}

theorem flushing_busless {error : AppError} (missing : dispatch.context.eventBus = .error error)
    (before : Broker A) :
    (dispatch.onBus (.direct (.flushing policy inner))).Went depth before := by
  have ran : (dispatch.onBus (.direct (.flushing policy inner))).run depth before =
      (some (.error error), before) := by
    simp only [onBus, run, CommandBus.dispatch, DirectBus.dispatch, DirectBus.flushAround, missing]
    rfl
  have sought : (dispatch.onBus (.direct (.flushing policy inner))).Leads depth before before
      (.seek (.error error)) := ⟨missing, rfl⟩
  exact Or.inl ⟨_, _, before, ran, .one sought, .direct (by simp [StackCall.Sessionless]),
    .failure rfl⟩

/-- With a bus the layer carries the command out first and settles the events then. -/
theorem run_flushing (depth : Nat) (present : dispatch.context.eventBus = .ok bus) :
    (dispatch.onBus (.direct (.flushing policy inner))).run depth =
      ((dispatch.onBus (.direct inner)).run depth).bind (DirectBus.settle depth policy bus) := by
  simp only [onBus, run, CommandBus.dispatch, DirectBus.dispatch, DirectBus.flushAround, present]

/-- The layer finds its bus before anything else. -/
theorem Makes.flushing (present : dispatch.context.eventBus = .ok bus)
    (makes : (dispatch.onBus (.direct inner)).Makes depth calls before middle) :
    (dispatch.onBus (.direct (.flushing policy inner))).Makes depth (.seek (.ok bus) :: calls)
      before middle := by
  have sought : (dispatch.onBus (.direct (.flushing policy inner))).Leads depth before before
      (.seek (.ok bus)) := ⟨present, rfl⟩
  exact .call sought (makes.within (List.prefix_refl _))

/-- No bus without transactions calls a unit of work. -/
theorem Conducted.sessionless {result : Except AppError Unit}
    (inside : (dispatch.onBus (.direct inner)).Conducted depth before calls result middle) :
    ∀ call ∈ StackCall.seek (.ok bus) :: calls, call.Sessionless := by
  have bracketed : Bracketed 0 calls := inside.bracketed
  cases bracketed with
  | direct sessionless => exact List.forall_mem_cons.mpr ⟨trivial, sessionless⟩

/-- After an error the layer clears away what its policy says. -/
theorem settle_error (depth : Nat) (dispatch : Dispatch A) (policy : FlushPolicy) (bus : BusId)
    (error : AppError) (before : Broker A) :
    ∃ calls after,
      DirectBus.settle depth policy bus (.error error) before = (some (.error error), after) ∧
      dispatch.Makes depth calls before after ∧
      ∀ call ∈ calls, call.Sessionless ∧ call.Clears := by
  cases policy with
  | discardOnFailure =>
      have leads : dispatch.Leads depth before (before.discard bus).2 (.discard bus) := rfl
      refine ⟨[.discard bus], _, rfl, .one leads, fun call member => ?_⟩
      obtain rfl := List.mem_singleton.mp member
      exact ⟨trivial, trivial⟩
  | retainOnFailure => exact ⟨[], before, rfl, .done before, nofun⟩

theorem Conducted.flushing_error {error : AppError}
    (inside : (dispatch.onBus (.direct inner)).Conducted depth before calls (.error error) middle)
    (present : dispatch.context.eventBus = .ok bus) :
    (dispatch.onBus (.direct (.flushing policy inner))).Went depth before := by
  obtain ⟨last, after, settled, cleaning, clears⟩ := settle_error depth
    (dispatch.onBus (.direct (.flushing policy inner))) policy bus error middle
  refine Or.inl ⟨_, .error error, after, ?_, (inside.makes.flushing present).trans cleaning,
    .direct ?_, ?_⟩
  · rw [run_flushing depth present]
    exact (Act.bind_of_some inside.ran).trans settled
  · exact List.forall_mem_append.mpr ⟨inside.sessionless, fun call member => (clears call member).1⟩
  · exact (inside.ended.cons rfl).clear fun call member => (clears call member).2

theorem Conducted.flushing_ok
    (inside : (dispatch.onBus (.direct inner)).Conducted depth before calls (.ok ()) middle)
    (present : dispatch.context.eventBus = .ok bus) :
    (dispatch.onBus (.direct (.flushing policy inner))).Went depth before := by
  have ran : (dispatch.onBus (.direct (.flushing policy inner))).run depth before =
      Broker.flush depth bus middle := by
    rw [run_flushing depth present]
    exact Act.bind_of_some inside.ran
  have makes : (dispatch.onBus (.direct (.flushing policy inner))).Makes depth
      (.seek (.ok bus) :: calls) before middle := inside.makes.flushing present
  have faultless : ∀ call ∈ StackCall.seek (.ok bus) :: calls, call.error? = none :=
    List.forall_mem_cons.mpr ⟨rfl, inside.ended.faultless⟩
  rcases flushed : Broker.flush depth bus middle with ⟨_ | result, after⟩
  · exact Or.inr ⟨_, middle, after, ran.trans flushed, makes, ⟨_, rfl, inside.sessionless⟩,
      faultless, Or.inr ⟨bus, flushed⟩⟩
  · have flushing : (dispatch.onBus (.direct (.flushing policy inner))).Leads depth middle after
        (.flush bus result) := flushed
    refine Or.inl ⟨_, result, after, ran.trans flushed, makes.trans (.one flushing), .direct ?_, ?_⟩
    · exact List.forall_mem_append.mpr ⟨inside.sessionless, by simp [StackCall.Sessionless]⟩
    · refine Ended.after ?_ faultless
      cases result with
      | ok => exact .ok (by simp [StackCall.error?])
      | error error => exact .failure rfl

theorem Unanswered.flushing {after : Broker A}
    (inside : (dispatch.onBus (.direct inner)).Unanswered depth before calls middle after)
    (present : dispatch.context.eventBus = .ok bus) :
    (dispatch.onBus (.direct (.flushing policy inner))).Unanswered depth before
      (.seek (.ok bus) :: calls) middle after where
  ran := by
    rw [run_flushing depth present]
    exact Act.bind_of_none inside.ran
  makes := inside.makes.flushing present
  opened := by
    obtain ⟨others, rfl, sessionless⟩ := inside.opened
    exact ⟨_, rfl, List.forall_mem_cons.mpr ⟨trivial, sessionless⟩⟩
  faultless := List.forall_mem_cons.mpr ⟨rfl, inside.faultless⟩
  stuck := inside.stuck

end Flushing

theorem direct_went (dispatch : Dispatch A) (bus : DirectBus) (before : Broker A) :
    (dispatch.onBus (.direct bus)).Went depth before := by
  induction bus with
  | container => exact container_went dispatch before
  | flushing policy inner ih =>
      cases present : dispatch.context.eventBus with
      | error error => exact flushing_busless present before
      | ok bus =>
          rcases ih with ⟨calls, error | _, middle, inside⟩ | ⟨calls, middle, after, inside⟩
          · exact inside.flushing_error present
          · exact inside.flushing_ok present
          · exact Or.inr ⟨_, middle, after, inside.flushing present⟩

/-! ### A transactional layer -/

section Transactional

variable {dispatch : Dispatch A} {unit : UnitOfWork} {inner : CommandBus}
  {before opened middle : Broker A} {calls : List StackCall}

theorem length_units (dispatch : Dispatch A) (unit : UnitOfWork) (inner : CommandBus) :
    (dispatch.onBus (.transactional unit inner)).bus.units.length = inner.units.length + 1 :=
  List.length_append

/-- The outermost layer has its unit of work at the end of the row. -/
theorem leads_session {call : SessionCall} {outcome : Except DomainError Unit}
    (called : unit.call call before = (some outcome, middle)) :
    (dispatch.onBus (.transactional unit inner)).Leads depth before middle
      (.session inner.units.length call outcome) :=
  ⟨unit, List.getElem?_concat_length, called⟩

/-- The calls that a passage makes, where the session is that of one layer. -/
theorem Makes.of_passage {policy : FlushPolicy} {layer : Nat} {calls : List PipelineCall}
    {after : Broker A} (held : dispatch.bus.units[layer]? = some unit)
    (makes : (Passage.through unit policy .container depth dispatch.context dispatch.kind
      dispatch.payload).Makes depth calls before after) :
    dispatch.Makes depth (calls.map (StackCall.ofPipeline layer)) before after := by
  induction makes with
  | done broker => exact .done broker
  | logged record rest ih => exact .logged record ih
  | @call calls before middle after call leads rest ih =>
      refine .call ?_ ih
      cases call with
      | session call outcome => exact ⟨unit, held, leads⟩
      | inner | flush | discard => exact leads

/-- How a layer ends its session: what the bus inside of it came to, its result, and its calls. -/
inductive Concluded (layer : Nat) :
    Except AppError Unit → Except AppError Unit → List StackCall → Prop
  | rolledBack (error : AppError) (outcome : Except DomainError Unit) :
      Concluded layer (.error error) (.error error) [.session layer .rollback outcome]
  | uncommitted (failure : DomainError) (outcome : Except DomainError Unit) :
      Concluded layer (.ok ()) (.error (.domain failure))
        [.session layer .commit (.error failure), .session layer .rollback outcome]
  | committed : Concluded layer (.ok ()) (.ok ()) [.session layer .commit (.ok ())]

theorem Concluded.bracketed {layer : Nat} {outcome result : Except AppError Unit}
    {last : List StackCall} (concluded : Concluded layer outcome result last)
    (inside : Bracketed layer calls) :
    Bracketed (layer + 1) (.session layer .createSession (.ok ()) :: (calls ++ last)) := by
  cases concluded with
  | rolledBack error outcome => exact .rolledBack inside outcome
  | uncommitted failure outcome => exact .uncommitted inside failure outcome
  | committed => exact .committed inside

theorem Concluded.ended {layer : Nat} {outcome result : Except AppError Unit}
    {last : List StackCall} (concluded : Concluded layer outcome result last)
    (inside : Ended calls outcome) : Ended (calls ++ last) result := by
  cases concluded with
  | rolledBack error outcome => exact inside.clear (by simp [StackCall.Clears])
  | uncommitted failure outcome =>
      have failed : Ended [StackCall.session layer .commit (.error failure)]
          (.error (.domain failure)) := .failure rfl
      have clears : ∀ call ∈ [StackCall.session layer .rollback outcome], call.Clears := by
        simp [StackCall.Clears]
      exact (failed.clear clears).after inside.faultless
  | committed => exact Ended.after (.ok (by simp [StackCall.error?])) inside.faultless

/-- After a result of the bus inside of it, a layer ends its session. -/
theorem conclude_calls (depth : Nat) (dispatch : Dispatch A) (unit : UnitOfWork)
    (inner : CommandBus) (outcome : Except AppError Unit) (before : Broker A) :
    ∃ last result after,
      CommandBus.conclude unit (A.commandName dispatch.kind) outcome before =
          (some result, after) ∧
        (dispatch.onBus (.transactional unit inner)).Makes depth last before after ∧
        Concluded inner.units.length outcome result last := by
  -- a passage ends its session as a layer does, whatever it carries out in between
  obtain ⟨calls, result, after, concluded, makes, cases⟩ := Passage.conclude_makes depth
    (Passage.through unit .retainOnFailure .container depth dispatch.context dispatch.kind
      dispatch.payload) outcome before
  have held : (dispatch.onBus (.transactional unit inner)).bus.units[inner.units.length]? =
      some unit := List.getElem?_concat_length
  refine ⟨_, result, after, concluded, .of_passage held makes, ?_⟩
  rcases cases with ⟨error, rolledBack, rfl, rfl, rfl⟩ | ⟨failure, rolledBack, rfl, rfl, rfl⟩ |
    ⟨rfl, rfl, rfl⟩
  · exact .rolledBack error rolledBack
  · exact .uncommitted failure rolledBack
  · exact .committed

theorem Conducted.transactional {outcome : Except AppError Unit}
    (opening : unit.call .createSession before = (some (.ok ()), opened))
    (inside : (dispatch.onBus inner).Conducted depth opened calls outcome middle) :
    (dispatch.onBus (.transactional unit inner)).Went depth before := by
  obtain ⟨last, result, after, answered, ending, concluded⟩ :=
    conclude_calls depth dispatch unit inner outcome middle
  have within : (dispatch.onBus (.transactional unit inner)).Makes depth calls opened middle :=
    inside.makes.within (List.prefix_append _ _)
  refine Or.inl ⟨_, result, after, ?_, .call (leads_session opening) (within.trans ending), ?_,
    (concluded.ended inside.ended).cons rfl⟩
  · exact (Act.bind_of_some opening).trans ((Act.bind_of_some inside.ran).trans answered)
  · rw [length_units]
    exact concluded.bracketed inside.bracketed

theorem Unanswered.transactional {after : Broker A}
    (opening : unit.call .createSession before = (some (.ok ()), opened))
    (inside : (dispatch.onBus inner).Unanswered depth opened calls middle after) :
    (dispatch.onBus (.transactional unit inner)).Unanswered depth before
      (.session inner.units.length .createSession (.ok ()) :: calls) middle after where
  ran := (Act.bind_of_some opening).trans (Act.bind_of_none inside.ran)
  makes := .call (leads_session opening) (inside.makes.within (List.prefix_append _ _))
  opened := by
    obtain ⟨others, rfl, sessionless⟩ := inside.opened
    rw [length_units]
    exact ⟨others, rfl, sessionless⟩
  faultless := List.forall_mem_cons.mpr ⟨rfl, inside.faultless⟩
  stuck := inside.stuck

end Transactional

/-- A dispatch on any stack makes its calls in brackets, up to the first error. -/
theorem went_onBus (depth : Nat) (dispatch : Dispatch A) (bus : CommandBus) (before : Broker A) :
    (dispatch.onBus bus).Went depth before := by
  induction bus generalizing before with
  | direct bus => exact direct_went dispatch bus before
  | transactional unit inner ih =>
      obtain ⟨outcome, opened, called⟩ := Passage.call_answers unit .createSession before
      cases outcome with
      | error failure =>
          refine Or.inl ⟨_, _, opened, Act.bind_of_some called, .one (leads_session called), ?_,
            .failure rfl⟩
          rw [length_units]
          exact .refused _ failure
      | ok =>
          rcases ih opened with ⟨calls, outcome, middle, inside⟩ | ⟨calls, middle, after, inside⟩
          · exact inside.transactional called
          · exact Or.inr ⟨_, middle, after, inside.transactional called⟩

theorem went (depth : Nat) (dispatch : Dispatch A) (before : Broker A) :
    dispatch.Went depth before :=
  dispatch.went_onBus depth dispatch.bus before

/-! ## What the history tells -/

/-- What the history tells of a call: the unit of work that was called, the call and whether it
succeeded. -/
def told (dispatch : Dispatch A) : StackCall → Option (String × SessionCall × Bool)
  | .session layer call outcome =>
      dispatch.bus.units[layer]?.map fun unit => (unit.name, call, outcome.toBool)
  | _ => none

/-- What a call added to the history: a line for a call to a unit of work, and else nothing about
any. -/
theorem Leads.told {dispatch : Dispatch A} {before after : Broker A} {call : StackCall}
    (leads : dispatch.Leads depth before after call) :
    ∃ added, after.history = before.history ++ added ∧
      Activity.sessions added = (dispatch.told call).toList ∧
      (Activity.deliveries added ≠ [] → call.Sessionless) := by
  cases call with
  | session layer call outcome =>
      obtain ⟨unit, held, answered⟩ := leads
      unfold UnitOfWork.call at answered
      split at answered
      · cases answered
        refine ⟨[.session unit.name call true], rfl, ?_, fun given => absurd rfl given⟩
        simp [Dispatch.told, held, Except.toBool, Activity.sessions, Activity.session?]
      · cases answered
        refine ⟨[.session unit.name call false], rfl, ?_, fun given => absurd rfl given⟩
        simp [Dispatch.told, held, Except.toBool, Activity.sessions, Activity.session?]
  | seek outcome =>
      obtain ⟨-, rfl⟩ := leads
      exact ⟨[], (List.append_nil _).symm, rfl, fun _ => trivial⟩
  | command outcome =>
      have answered : Broker.dispatch depth dispatch.context dispatch.kind dispatch.payload before =
          (some outcome, after) := leads
      obtain ⟨added, history, none⟩ := DirectBus.dispatch_sessionless .container depth
        dispatch.context dispatch.kind dispatch.payload before
      exact ⟨added, by rw [← history, DirectBus.dispatch, answered], none, fun _ => trivial⟩
  | flush bus outcome =>
      have answered : Broker.flush depth bus before = (some outcome, after) := leads
      obtain ⟨added, history, none⟩ := Broker.flush_sessionless depth bus before
      exact ⟨added, by rw [← history, answered], none, fun _ => trivial⟩
  | discard bus =>
      have dropped : (before.discard bus).2 = after := leads
      rw [← dropped]
      exact ⟨[.taken bus (before.buffer bus)], rfl, rfl, fun _ => trivial⟩

/-- Each delivery came in the course of a call that is none to a unit of work, after the calls to
units of work that were made before that one and no others. -/
def Attributes (dispatch : Dispatch A) (calls : List StackCall) (added : List (Activity A)) :
    Prop :=
  ∀ front handler event back, added = front ++ .notified handler event :: back →
    ∃ earlier call later, calls = earlier ++ call :: later ∧ call.Sessionless ∧
      Activity.sessions front = earlier.filterMap dispatch.told

/-- The history tells of the calls to units of work that were made, and what came before each
delivery. -/
theorem Makes.told {dispatch : Dispatch A} {calls : List StackCall} {before after : Broker A}
    (makes : dispatch.Makes depth calls before after) :
    ∃ added, after.history = before.history ++ added ∧
      Activity.sessions added = calls.filterMap dispatch.told ∧
      dispatch.Attributes calls added := by
  induction makes with
  | done broker => exact ⟨[], (List.append_nil _).symm, rfl, fun _ _ _ _ split => by simp at split⟩
  | @logged calls before after record rest ih =>
      obtain ⟨added, history, sessions, attributes⟩ := ih
      refine ⟨.logged record :: added, ?_, sessions, ?_⟩
      · rw [history]
        exact List.append_assoc _ [_] _
      · intro front handler event back split
        rcases front with _ | ⟨first, front⟩
        · cases split
        · obtain ⟨rfl, later⟩ := List.cons.inj split
          exact attributes front handler event back later
  | @call calls before middle after call leads rest ih =>
      obtain ⟨first, one, sessions, given⟩ := leads.told
      obtain ⟨second, two, others, attributes⟩ := ih
      refine ⟨first ++ second, by rw [two, one, List.append_assoc], ?_, ?_⟩
      · rw [Activity.sessions_append, sessions, others, List.filterMap_cons]
        cases dispatch.told call <;> rfl
      · intro front handler event back split
        rcases append_eq_append_cons split with ⟨more, rfl⟩ | ⟨more, rfl, ends⟩
        · have sessionless : call.Sessionless := given (by simp [Activity.deliveries,
            Activity.delivery?])
          refine ⟨[], call, calls, rfl, sessionless, ?_⟩
          have none : dispatch.told call = none := by
            cases call with
            | session => exact sessionless.elim
            | seek | command | flush | discard => rfl
          rw [none, Activity.sessions_append] at sessions
          exact (List.append_eq_nil_iff.mp sessions).1
        · obtain ⟨earlier, other, later, split, sessionless, before⟩ :=
            attributes more handler event back ends
          refine ⟨call :: earlier, other, later, by rw [split]; rfl, sessionless, ?_⟩
          rw [Activity.sessions_append, sessions, before, List.filterMap_cons]
          cases dispatch.told call <;> rfl

/-- The lines of the history that tell of the sessions of all layers being opened, outermost
first. -/
def opens (dispatch : Dispatch A) : List (String × SessionCall × Bool) :=
  dispatch.bus.units.reverse.map fun unit => (unit.name, .createSession, true)

/-- No event was given to a handler before the sessions of all layers were open, or after one of
them was committed or rolled back. -/
def DeliversInside (dispatch : Dispatch A) (added : List (Activity A)) : Prop :=
  ∀ front handler event back, added = front ++ .notified handler event :: back →
    Activity.sessions front = dispatch.opens

theorem told_openings (dispatch : Dispatch A) (layers : Nat) :
    (openings layers).filterMap dispatch.told = (dispatch.bus.units.take layers).reverse.map
      fun unit => (unit.name, .createSession, true) := by
  induction layers with
  | zero => rfl
  | succ layer ih =>
      rw [openings, List.filterMap_cons, ih, List.take_add_one]
      cases held : dispatch.bus.units[layer]? with
      | none => simp [told, held]
      | some unit => simp [told, held, Except.toBool]

theorem told_opened {dispatch : Dispatch A} {calls : List StackCall}
    (opened : Opened dispatch.bus.units.length calls) :
    calls.filterMap dispatch.told = dispatch.opens := by
  obtain ⟨others, rfl, sessionless⟩ := opened
  have nothing : others.filterMap dispatch.told = [] := by
    refine List.filterMap_eq_nil_iff.mpr fun call member => ?_
    have other := sessionless call member
    cases call with
    | session => exact other.elim
    | seek | command | flush | discard => rfl
  rw [List.filterMap_append, nothing, List.append_nil, told_openings, List.take_length]
  rfl

theorem Attributes.deliversInside {dispatch : Dispatch A} {calls : List StackCall}
    {added : List (Activity A)} (attributes : dispatch.Attributes calls added)
    (inside : ∀ front call back, calls = front ++ call :: back → call.Sessionless →
      Opened dispatch.bus.units.length front) : dispatch.DeliversInside added := by
  intro front handler event back split
  obtain ⟨earlier, call, later, made, sessionless, sessions⟩ :=
    attributes front handler event back split
  rw [sessions]
  exact told_opened (inside earlier call later made sessionless)

/-- What the container and a flush do inside of all sessions calls no unit of work. -/
theorem Unanswered.sessionless {dispatch : Dispatch A} {before middle after : Broker A}
    {calls : List StackCall} (unanswered : dispatch.Unanswered depth before calls middle after) :
    ∃ added, after.history = middle.history ++ added ∧ Activity.sessions added = [] := by
  rcases unanswered.stuck with stuck | ⟨bus, stuck⟩
  · obtain ⟨added, history, none⟩ := DirectBus.dispatch_sessionless .container depth
      dispatch.context dispatch.kind dispatch.payload middle
    exact ⟨added, by rw [← history, DirectBus.dispatch, stuck], none⟩
  · obtain ⟨added, history, none⟩ := Broker.flush_sessionless depth bus middle
    exact ⟨added, by rw [← history, stuck], none⟩

end Dispatch

/-- **Events are flushed inside of all transactions.**  Take any stack of layers, where flushing
layers lie only around buses without transactions, with units of work that fail as they like.  A
dispatch makes its calls in brackets and ends with the first error that is not one of a rollback,
after which it only drops events and rolls back, unless it has no answer.  In either case the
history tells of the calls to units of work that were made, and of no event given to a handler
outside of any session of the stack. -/
theorem flushed_inside_transactions (depth : Nat) (dispatch : Dispatch A) (before : Broker A) :
    ∃ calls added, (dispatch.run depth before).2.history = before.history ++ added ∧
      Activity.sessions added = calls.filterMap dispatch.told ∧
      dispatch.DeliversInside added ∧
      (∀ front call back, calls = front ++ call :: back → call.Sessionless →
        Opened dispatch.bus.units.length front) ∧
      ((∃ result after, dispatch.Conducted depth before calls result after ∧
          ∀ layer, OwnCalls (calls.filterMap (StackCall.of? layer))) ∨
        ∃ middle after, dispatch.Unanswered depth before calls middle after) := by
  rcases dispatch.went depth before with
    ⟨calls, result, after, conducted⟩ | ⟨calls, middle, after, unanswered⟩
  · obtain ⟨added, history, sessions, attributes⟩ := conducted.makes.told
    have inside : ∀ front call back, calls = front ++ call :: back → call.Sessionless →
        Opened dispatch.bus.units.length front :=
      fun _ _ _ split other => conducted.bracketed.inside split other
    have ran : dispatch.run depth before = (some result, after) := conducted.ran
    refine ⟨calls, added, by rw [ran, history], sessions, attributes.deliversInside inside, inside,
      Or.inl ⟨result, after, conducted, conducted.bracketed.own⟩⟩
  · obtain ⟨first, one, sessions, attributes⟩ := unanswered.makes.told
    obtain ⟨second, two, none⟩ := unanswered.sessionless
    have inside : ∀ front call back, calls = front ++ call :: back → call.Sessionless →
        Opened dispatch.bus.units.length front :=
      fun _ _ _ split other => unanswered.opened.inside split other
    have ran : dispatch.run depth before = (Option.none, after) := unanswered.ran
    refine ⟨calls, first ++ second, by rw [ran, two, one, List.append_assoc], ?_, ?_, inside,
      Or.inr ⟨middle, after, unanswered⟩⟩
    · rw [Activity.sessions_append, sessions, none, List.append_nil]
    · intro front handler event back split
      rcases append_eq_append_cons split with ⟨more, here⟩ | ⟨more, rfl, ends⟩
      · exact attributes.deliversInside inside front handler event more here
      · -- what has no answer runs after all sessions were opened
        rw [ends, Activity.sessions_append] at none
        rw [Activity.sessions_append, sessions, (List.append_eq_nil_iff.mp none).1,
          List.append_nil]
        exact Dispatch.told_opened unanswered.opened

namespace Sample

/-- A notebook that records notes and keeps them. -/
def layeredNotebook : Broker notebook :=
  blankNotebook
    |>.bind "record" (commandBinding "record" none .record)
    |>.registerCommand .record "record"
    |>.bind "log" (NoteReaction.keep.binding "log")
    |>.subscribe "start" "log"

/-- Two transactions around two flushing layers, where the outer commit fails. -/
def layeredDispatch : Dispatch notebook where
  bus := .transactional (.failing "outer" [.commit])
    (.transactional (.failing "inner" [])
      (.direct (.flushing .retainOnFailure (.flushing .discardOnFailure .container))))
  context := { events := some Broker.mainBus }
  kind := .record
  payload := { notes := [⟨"1", "start"⟩], failure := none }

/-- The note is given to its handler when both sessions are open, and the inner one is committed
before the outer one is rolled back. -/
example :
    let added := (layeredDispatch.run 1 layeredNotebook).2.history
    Activity.deliveries added = [("log", ⟨"1", "start"⟩)] ∧
      Activity.sessions added = [("outer", .createSession, true), ("inner", .createSession, true),
        ("inner", .commit, true), ("outer", .commit, false), ("outer", .rollback, true)] := by
  decide +kernel

end Sample

end Cqrs
