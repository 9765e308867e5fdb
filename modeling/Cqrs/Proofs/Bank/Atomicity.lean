/-
# Proofs.Bank.Atomicity -- no order is half applied

An order through the pipeline leaves the accounts as they were, or it leaves them with its full
effect: one account moved for a deposit or a withdrawal, both accounts moved for a transfer
(`CarriedOut`).  The handler saves one account after another, but no save precedes a refusal
(`Order.handle_checksFirst`), and what comes after the handler reaches no account: neither the
flush, whose handlers of events leave the accounts alone, nor the commit, nor a rollback, which
undoes nothing.

* `containerDispatch_outcome` -- what the handler leaves behind, by how it ended;
* `passage_ending` -- the ways in which the pipeline ends around it;
* `all_or_nothing` -- what the result tells of the accounts.
-/
import Cqrs.Proofs.Bank.Conservation
import Cqrs.Proofs.Pipeline

namespace Cqrs.Bank

set_option autoImplicit false

/-! ## What leaves the accounts alone -/

/-- Bindings only went away, and the accounts are as they were. -/
structure Still (before after : Broker application) : Prop where
  binds : after.BindsWithin before
  accounts : after.state.accounts = before.state.accounts

theorem Still.refl (broker : Broker application) : Still broker broker :=
  ⟨.refl broker, rfl⟩

theorem Still.trans {a b c : Broker application} (one : Still a b) (two : Still b c) :
    Still a c :=
  ⟨one.binds.trans two.binds, two.accounts.trans one.accounts⟩

theorem still_frame : Frame KeepsAccounts fun _ => Still where
  refl _ := .refl
  trans := .trans
  binds still := still.binds
  effect effect flush broker keeps plain := by
    cases effect with
    | update change => exact ⟨.refl broker, keeps broker.state⟩
    | unbind id => exact ⟨Broker.unbind_bindsWithin broker id, rfl⟩
    | flush bus => exact absurd rfl (plain bus)
    | note | log | inspect | publish | subscribe | pending | discard =>
        exact ⟨.refl broker, rfl⟩
  notified _ _ broker _ := ⟨.refl broker, rfl⟩
  flushed bus broker after later := by
    have taken : Still broker (broker.take bus).2 := ⟨.refl broker, rfl⟩
    exact taken.trans later

/-- A flushing layer reaches no account once the command was carried out. -/
theorem settle_still (depth : Nat) (policy : FlushPolicy) (bus : BusId)
    (outcome : Except AppError Unit) (broker : Broker application)
    (events : broker.EventsOnly KeepsAccounts) :
    Still broker (DirectBus.settle depth policy bus outcome broker).2 := by
  cases outcome with
  | ok => exact @Frame.flush _ _ _ still_frame depth [] bus broker events
  | error error =>
      cases policy with
      | discardOnFailure => exact @Frame.taken _ _ _ still_frame [] bus broker
      | retainOnFailure => exact .refl broker

theorem call_still (unit : UnitOfWork) (call : SessionCall) (broker : Broker application) :
    Still broker (unit.call call broker).2 := by
  unfold UnitOfWork.call
  split
  · exact ⟨.refl broker, rfl⟩
  · exact ⟨.refl broker, rfl⟩

/-- The end of a session reaches no account. -/
theorem conclude_still (unit : UnitOfWork) (command : String) (outcome : Except AppError Unit)
    (broker : Broker application) :
    Still broker (CommandBus.conclude unit command outcome broker).2 :=
  Frame.conclude (fun _ broker => ⟨.refl broker, rfl⟩) (fun _ _ _ broker => ⟨.refl broker, rfl⟩)
    still_frame unit command outcome broker

/-! ## The ends of an order -/

/-- What the handler of an order leaves behind: on an error the accounts as they were, and on
success its full effect. -/
def Outcome (state : BankState) (order : Order) (accounts : Store Account) :
    Except AppError Unit → Prop
  | .error _ => accounts = state.accounts
  | .ok () => CarriedOut state order accounts

theorem containerDispatch_outcome (depth : Nat) (context : Context) (order : Order)
    (broker : Broker application) (staffed : Staffed broker) :
    ∃ outcome after, Broker.dispatch depth context order.kind order.payload broker =
        (some outcome, after) ∧
      after.BindsWithin broker ∧ Outcome broker.state order after.state.accounts outcome := by
  rcases staffed.dispatch_cases depth context order with ⟨error, notes, told⟩ | ⟨handler, told⟩
  · exact ⟨_, _, told broker rfl rfl, .refl broker, rfl⟩
  · rw [told broker rfl rfl]
    rcases order.handle_run context (Broker.flush depth)
        (broker.record (.handled handler order.kind order.payload)) with
      ⟨error, ran⟩ | ⟨bus, events, next, _, decided, ran⟩
    · rw [Act.bind_of_some ran]
      exact ⟨_, _, rfl, .refl broker, rfl⟩
    · rw [Act.bind_of_some ran]
      exact ⟨_, _, rfl, .refl broker, order.decide_carriedOut decided⟩

/-- The ways in which an order through the pipeline ends, with the accounts that it leaves. -/
inductive Ending (depth : Nat) (unit : UnitOfWork) (context : Context) (order : Order)
    (broker : Broker application) : Option (Except AppError Unit) → Store Account → Prop
  /-- No session was opened. -/
  | unopened {failure : DomainError}
      (refused : (unit.call .createSession broker).1 = some (.error failure)) :
      Ending depth unit context order broker (some (.error (.domain failure)))
        broker.state.accounts
  /-- The request has no event bus. -/
  | busless (opened : (unit.call .createSession broker).1 = some (.ok ()))
      (missing : context.events = none) :
      Ending depth unit context order broker (some (.error .missingEventBus))
        broker.state.accounts
  /-- The handler ended in an error, or there was none. -/
  | failed {error : AppError} (opened : (unit.call .createSession broker).1 = some (.ok ()))
      (present : context.events ≠ none)
      (handled : (Broker.dispatch depth context order.kind order.payload
        (unit.call .createSession broker).2).1 = some (.error error)) :
      Ending depth unit context order broker (some (.error error)) broker.state.accounts
  /-- The handler succeeded, whatever became of the flush and the commit. -/
  | carriedOut {answer : Option (Except AppError Unit)} {accounts : Store Account}
      (opened : (unit.call .createSession broker).1 = some (.ok ()))
      (present : context.events ≠ none)
      (handled : (Broker.dispatch depth context order.kind order.payload
        (unit.call .createSession broker).2).1 = some (.ok ()))
      (effect : CarriedOut broker.state order accounts) :
      Ending depth unit context order broker answer accounts

theorem call_state (unit : UnitOfWork) (call : SessionCall) (broker : Broker application) :
    (unit.call call broker).2.state = broker.state := by
  unfold UnitOfWork.call
  split
  · rfl
  · rfl

/-- What a pipeline does once the command was carried out. -/
def remainder (depth : Nat) (passage : Passage application) (bus : BusId)
    (outcome : Except AppError Unit) : Act application (Except AppError Unit) :=
  (DirectBus.settle depth passage.policy bus outcome).bind
    (CommandBus.conclude passage.unit passage.command)

theorem remainder_still (depth : Nat) (passage : Passage application) (bus : BusId)
    (outcome : Except AppError Unit) (broker : Broker application)
    (events : broker.EventsOnly KeepsAccounts) :
    Still broker (remainder depth passage bus outcome broker).2 := by
  have settled := settle_still depth passage.policy bus outcome broker events
  exact @Frame.bind _ _ _ _ _ still_frame [] _ _ _ settled fun _ => conclude_still _ _ _ _

theorem remainder_error (depth : Nat) (passage : Passage application) (bus : BusId)
    (error : AppError) (broker : Broker application) :
    (remainder depth passage bus (.error error) broker).1 = some (.error error) := by
  obtain ⟨after, settled, _⟩ := Passage.settle_error_makes depth passage bus error broker
  have concluded := Passage.conclude_error passage.unit passage.command error after
  rw [← concluded]
  exact congrArg Prod.fst (Act.bind_of_some settled)

/-- The flushing layer has no more to do with a request without an event bus. -/
theorem flushAround_busless (depth : Nat) (passage : Passage application)
    (broker : Broker application) (missing : passage.context.events = none) :
    DirectBus.flushAround depth passage.policy passage.context passage.inner broker =
      (some (.error .missingEventBus), broker) := by
  simp only [DirectBus.flushAround, Context.eventBus, missing]
  rfl

/-- Once the command was carried out, the remainder follows. -/
theorem flushAround_remainder {depth : Nat} {passage : Passage application}
    {broker middle : Broker application} {bus : BusId} {outcome : Except AppError Unit}
    (present : passage.context.events = some bus)
    (carried : passage.inner broker = (some outcome, middle)) :
    Act.bind (DirectBus.flushAround depth passage.policy passage.context passage.inner)
      (CommandBus.conclude passage.unit passage.command) broker =
        remainder depth passage bus outcome middle := by
  simp only [DirectBus.flushAround, Context.eventBus, present, remainder, Act.bind, carried]

theorem passage_ending (depth : Nat) (passage : Passage application) (order : Order)
    (carries : passage.inner = Broker.dispatch depth passage.context order.kind order.payload)
    (broker : Broker application) (staffed : Staffed broker) :
    Ending depth passage.unit passage.context order broker (passage.run depth broker).1
      (passage.run depth broker).2.state.accounts := by
  have state := call_state passage.unit .createSession broker
  have entering := call_still passage.unit .createSession broker
  obtain ⟨answer, opened, called⟩ := Passage.call_answers passage.unit .createSession broker
  rw [called] at state entering
  cases answer with
  | error failure =>
      have ended : passage.run depth broker = (some (.error (.domain failure)), opened) :=
        Act.bind_of_some called
      rw [ended, entering.accounts]
      exact .unopened (by rw [called])
  | ok =>
      have started : passage.run depth broker = Act.bind
          (DirectBus.flushAround depth passage.policy passage.context passage.inner)
          (CommandBus.conclude passage.unit passage.command) opened := Act.bind_of_some called
      cases present : passage.context.events with
      | none =>
          rw [started, Act.bind_of_some (flushAround_busless depth passage opened present),
            Passage.conclude_error, (conclude_still _ _ _ _).accounts, entering.accounts]
          exact .busless (by rw [called]) present
      | some bus =>
          have busy : passage.context.events ≠ none := by
            rw [present]
            exact nofun
          obtain ⟨outcome, middle, carried, binds, left⟩ := containerDispatch_outcome depth
            passage.context order opened (staffed.of_bindsWithin entering.binds)
          have still := remainder_still depth passage bus outcome middle
            (staffed.of_bindsWithin (entering.binds.trans binds)).events
          rw [started, flushAround_remainder present (carries ▸ carried), still.accounts]
          cases outcome with
          | error error =>
              rw [remainder_error, left, entering.accounts]
              exact .failed (by rw [called]) busy (by rw [called, carried])
          | ok =>
              rw [state] at left
              exact .carriedOut (by rw [called]) busy (by rw [called, carried]) left

namespace Ending

variable {depth : Nat} {unit : UnitOfWork} {context : Context} {order : Order}
  {broker : Broker application} {answer : Option (Except AppError Unit)}
  {accounts : Store Account} {error : AppError} {failure : DomainError}

theorem either (ending : Ending depth unit context order broker answer accounts) :
    accounts = broker.state.accounts ∨ CarriedOut broker.state order accounts := by
  cases ending with
  | unopened | busless | failed => exact Or.inl rfl
  | carriedOut opened present handled effect => exact Or.inr effect

theorem of_ok (ending : Ending depth unit context order broker answer accounts)
    (succeeded : answer = some (.ok ())) : CarriedOut broker.state order accounts := by
  cases ending with
  | unopened | busless | failed => cases succeeded
  | carriedOut opened present handled effect => exact effect

theorem of_unopened (ending : Ending depth unit context order broker answer accounts)
    (unopened : (unit.call .createSession broker).1 = some (.error failure)) :
    answer = some (.error (.domain failure)) ∧ accounts = broker.state.accounts := by
  cases ending with
  | unopened refused =>
      cases refused.symm.trans unopened
      exact ⟨rfl, rfl⟩
  | busless opened | failed opened | carriedOut opened => cases opened.symm.trans unopened

theorem of_busless (ending : Ending depth unit context order broker answer accounts)
    (opened : (unit.call .createSession broker).1 = some (.ok ()))
    (missing : context.events = none) :
    answer = some (.error .missingEventBus) ∧ accounts = broker.state.accounts := by
  cases ending with
  | unopened refused => cases refused.symm.trans opened
  | busless => exact ⟨rfl, rfl⟩
  | failed _ present | carriedOut _ present => exact absurd missing present

theorem of_failed (ending : Ending depth unit context order broker answer accounts)
    (opened : (unit.call .createSession broker).1 = some (.ok ()))
    (present : context.events ≠ none)
    (refused : (Broker.dispatch depth context order.kind order.payload
      (unit.call .createSession broker).2).1 = some (.error error)) :
    answer = some (.error error) ∧ accounts = broker.state.accounts := by
  cases ending with
  | unopened unopened => cases unopened.symm.trans opened
  | busless _ missing => exact absurd missing present
  | failed _ _ handled =>
      cases handled.symm.trans refused
      exact ⟨rfl, rfl⟩
  | carriedOut _ _ handled => cases handled.symm.trans refused

end Ending

/-- **All or nothing.**  The handler of an order changes nothing while it can still fail, and the
order has no more than one full effect.  Through the pipeline it leaves the accounts as they were
or with that effect, whatever the session, the flush, the commit and the rollback come to, and also
where the run has no answer.  A success tells of the full effect.  After an error of the
session's opening, for want of an event bus, or of the handler, the accounts are as they were. -/
theorem all_or_nothing (depth : Nat) (unit : UnitOfWork) (policy : FlushPolicy)
    (context : Context) (order : Order) (broker : Broker application) (staffed : Staffed broker) :
    let opened := unit.call .createSession broker
    let handled := Broker.dispatch depth context order.kind order.payload opened.2
    let run := (pipeline unit policy).dispatch depth context order.kind order.payload broker
    (order.handle context).ChecksFirst ∧
    (∀ accounts others, CarriedOut broker.state order accounts →
      CarriedOut broker.state order others → accounts = others) ∧
    (run.2.state.accounts = broker.state.accounts ∨
      CarriedOut broker.state order run.2.state.accounts) ∧
    (run.1 = some (.ok ()) → CarriedOut broker.state order run.2.state.accounts) ∧
    (∀ failure, opened.1 = some (.error failure) →
      run.1 = some (.error (.domain failure)) ∧ run.2.state.accounts = broker.state.accounts) ∧
    (opened.1 = some (.ok ()) → context.events = none →
      run.1 = some (.error .missingEventBus) ∧
        run.2.state.accounts = broker.state.accounts) ∧
    (∀ error, opened.1 = some (.ok ()) → context.events ≠ none →
      handled.1 = some (.error error) →
      run.1 = some (.error error) ∧ run.2.state.accounts = broker.state.accounts) := by
  intro opened handled run
  have ending : Ending depth unit context order broker run.1 run.2.state.accounts :=
    passage_ending depth (.through unit policy .container depth context order.kind order.payload)
      order rfl broker staffed
  exact ⟨order.handle_checksFirst context, fun _ _ => CarriedOut.unique, ending.either,
    ending.of_ok, fun failure => ending.of_unopened, ending.of_busless,
    fun error => ending.of_failed⟩

def smallTransfer : Order :=
  .transfer ⟨"acc-a", "acc-b", 30, "USD"⟩

/-- The transfer through the pipeline of a unit of work that fails some calls. -/
def smallRun (calls : List SessionCall) : Option (Except AppError Unit) × Broker application :=
  (pipeline (.failing "unit" calls) .discardOnFailure).dispatch 1
    (({} : Context).withEvents Broker.mainBus) smallTransfer.kind smallTransfer.payload
    (assemble smallBank)

/-- The transfer moves both accounts, or none where no session was opened. -/
theorem all_or_nothing_smallBank :
    Staffed (assemble smallBank) ∧
      CarriedOut smallBank smallTransfer (smallRun []).2.state.accounts ∧
      (smallRun []).2.state.accounts.items.map (·.balance.amount) = [70, 80] ∧
      (smallRun [.createSession]).2.state.accounts = smallBank.accounts := by
  have whole : ∀ calls, _ := fun calls =>
    all_or_nothing 1 (.failing "unit" calls) .discardOnFailure
      (({} : Context).withEvents Broker.mainBus) smallTransfer (assemble smallBank)
      (assemble_staffed smallBank)
  obtain ⟨-, -, -, succeeded, -⟩ := whole []
  obtain ⟨-, -, -, -, unopened, -⟩ := whole [.createSession]
  refine ⟨assemble_staffed smallBank, succeeded (by decide +kernel), by decide +kernel, ?_⟩
  exact (unopened (.unitOfWork "create_session failed") (by decide +kernel)).2

end Cqrs.Bank
