/-
# Proofs.Bank.Handling -- no change precedes a refusal

The handler of an order does nothing but look until nothing can refuse the order any more
(`Order.handle_checksFirst`).  This is said of its program, whatever the looks are answered: it
holds of no program that saves an account before the last check is passed.  A run that ends in an
error has therefore changed nothing (`Program.ChecksFirst.unchanged`).

What the steps come to can be told at once from the state that they look at: an order is decided
on it (`Order.decide`), for the first reason that holds or with the events to publish and the new
state.  The steps meet this decision (`Meets.bind` takes them one by one), so a handler ends in one
of the ways of `Verdict`: without an event bus, refused, or with the decision carried out.
-/
import Cqrs.Proofs.Bank.Posting
import Cqrs.Proofs.Delivery

namespace Cqrs

set_option autoImplicit false

variable {A : Application}

/-! ## Programs that check first -/

/-- Effects that change nothing. -/
def Effect.Looks : Effect A → Prop
  | .inspect | .pending _ => True
  | _ => False

theorem Effect.Looks.carryOut {effect : Effect A} (looks : effect.Looks)
    (flush : BusId → Act A (Except AppError Unit)) (broker : Broker A) :
    ∃ response, effect.carryOut flush broker = (some response, broker) := by
  cases effect with
  | inspect | pending => exact ⟨_, rfl⟩
  | note | log | update | publish | subscribe | unbind | discard | flush => cases looks

namespace Program

variable {α β : Type}

/-- A program and the one after it run one after the other. -/
theorem run_bind (flush : BusId → Act A (Except AppError Unit)) (program : Program A α)
    (next : α → Program A β) (broker : Broker A) :
    (program.bind next).run flush broker =
      (program.run flush).bind (fun result => (next result).run flush) broker := by
  induction program generalizing broker with
  | done result => rfl
  | perform effect rest ih =>
      simp only [bind, run, Act.bind]
      split
      · exact ih _ _
      · rfl

/-- Nothing is changed while the program can still fail: an effect of it is a look, or whatever
comes after the effect succeeds. -/
def ChecksFirst : Reaction A → Prop
  | .done _ => True
  | .perform effect next =>
      (effect.Looks ∧ ∀ response, (next response).ChecksFirst) ∨
        ∀ response, (next response).Succeeds

namespace ChecksFirst

/-- Looks may come before the checks of a program. -/
theorem bind {looks : Program A α} {next : α → Reaction A} (only : looks.Only Effect.Looks)
    (rest : ∀ result, (next result).ChecksFirst) : (looks.bind next).ChecksFirst := by
  induction looks with
  | done result => exact rest result
  | perform effect after ih => exact Or.inl ⟨only.1, fun response => ih response (only.2 response)⟩

/-- **A run that ends in an error has changed nothing.** -/
theorem unchanged {program : Reaction A} (checksFirst : program.ChecksFirst)
    {flush : BusId → Act A (Except AppError Unit)} {before after : Broker A} {error : AppError}
    (failed : program.run flush before = (some (.error error), after)) : after = before := by
  induction program generalizing before with
  | done result =>
      cases failed
      rfl
  | perform effect next ih =>
      rcases checksFirst with ⟨looks, rest⟩ | succeeds
      · obtain ⟨response, seen⟩ := looks.carryOut flush before
        exact ih response (rest response) ((Act.bind_of_some seen).symm.trans failed)
      · -- nothing after this effect fails, so the program does not
        have whole : (perform effect next).Succeeds := succeeds
        cases whole.result_eq failed

end ChecksFirst

end Program

namespace Bank

/-! ## Steps -/

namespace Handling

variable {α : Type}

theorem checksFirst_bind {steps : Handling α} {next : α → Handling Unit}
    (only : steps.run.Only Effect.Looks) (rest : ∀ value, (next value).run.ChecksFirst) :
    (steps >>= next).run.ChecksFirst := by
  refine Program.ChecksFirst.bind only fun result => ?_
  cases result with
  | error error => trivial
  | ok value => exact rest value

theorem only_bind {condition : Effect application → Prop} {steps : Handling α}
    {next : α → Handling Unit} (only : steps.run.Only condition)
    (rest : ∀ value, (next value).run.Only condition) :
    (steps >>= next).run.Only condition := by
  refine Program.Only.bind only fun result => ?_
  cases result with
  | error error => trivial
  | ok value => exact rest value

theorem lift_looks (result : Except DomainError α) :
    (liftM result : Handling α).run.Only Effect.Looks := trivial

theorem obtain_looks (id : AccountId) : (obtain id).run.Only Effect.Looks :=
  ⟨trivial, fun _ => trivial⟩

theorem stamp_looks (unsaved : Nat) : (stamp unsaved).run.Only Effect.Looks :=
  ⟨trivial, fun _ => trivial⟩

end Handling

open Handling

theorem handleMoney_checksFirst
    (transition : Account → Stamp → Money → Except DomainError Account) (context : Context)
    (order : MoneyOrder) : (handleMoney transition context order).ChecksFirst := by
  refine checksFirst_bind trivial fun bus => ?_
  refine checksFirst_bind (lift_looks _) fun id => ?_
  refine checksFirst_bind (lift_looks _) fun money => ?_
  refine checksFirst_bind (obtain_looks id) fun account => ?_
  refine checksFirst_bind (stamp_looks 0) fun stamp => ?_
  refine checksFirst_bind (lift_looks _) fun account => ?_
  -- the account is saved and the events are published, which does not fail
  exact Or.inr fun _ _ => rfl

theorem handleTransfer_checksFirst (context : Context) (order : TransferOrder) :
    (handleTransfer context order).ChecksFirst := by
  refine checksFirst_bind trivial fun bus => ?_
  refine checksFirst_bind (lift_looks _) fun sourceId => ?_
  refine checksFirst_bind (lift_looks _) fun targetId => ?_
  refine checksFirst_bind (lift_looks _) fun apart => ?_
  refine checksFirst_bind (lift_looks _) fun money => ?_
  refine checksFirst_bind (obtain_looks sourceId) fun source => ?_
  refine checksFirst_bind (stamp_looks 0) fun stamp => ?_
  refine checksFirst_bind (lift_looks _) fun source => ?_
  refine checksFirst_bind (obtain_looks targetId) fun target => ?_
  refine checksFirst_bind (stamp_looks 1) fun stamp => ?_
  refine checksFirst_bind (lift_looks _) fun target => ?_
  -- both accounts are saved and the events are published, which does not fail
  exact Or.inr fun _ _ _ => rfl

/-- **No change precedes a refusal.** -/
theorem Order.handle_checksFirst (order : Order) (context : Context) :
    (order.handle context).ChecksFirst := by
  cases order with
  | deposit order => exact handleMoney_checksFirst Account.deposit context order
  | withdraw order => exact handleMoney_checksFirst Account.withdraw context order
  | transfer order => exact handleTransfer_checksFirst context order

/-! ## Decisions -/

/-- What is decided on an order: why it is refused, or the events to publish and the new state. -/
abbrev Decision := Except DomainError (List AccountEvent × BankState)

namespace BankState

/-- Decides on an order for one account, whose transition is given. -/
def decideMoney (transition : Account → Stamp → Money → Except DomainError Account)
    (order : MoneyOrder) (state : BankState) : Decision := do
  let id ← Identifier.parse accountKind order.account
  let money ← Money.parse order.amount order.currency
  let account ← state.obtain id
  let account ← transition account (state.stampAfter 0) money
  return (account.events.events, state.saveMoved account)

def decideTransfer (order : TransferOrder) (state : BankState) : Decision := do
  let sourceId ← Identifier.parse accountKind order.source
  let targetId ← Identifier.parse accountKind order.target
  checkApart sourceId targetId
  let money ← Money.parse order.amount order.currency
  let source ← state.obtain sourceId
  let source ← source.transferOut (state.stampAfter 0) money targetId
  let target ← state.obtain targetId
  let target ← target.transferIn (state.stampAfter 1) money sourceId
  return (source.events.events ++ target.events.events,
    (state.saveMoved source).saveMoved target)

end BankState

def Order.decide : Order → BankState → Decision
  | .deposit order => BankState.decideMoney Account.deposit order
  | .withdraw order => BankState.decideMoney Account.withdraw order
  | .transfer order => BankState.decideTransfer order

/-- The run of a handler meets a decision: it ends in the error of a refusal, or in the new state
with the events published. -/
def Meets (broker : Broker application) (bus : BusId)
    (run : Option (Except AppError Unit) × Broker application) : Decision → Prop
  | .error failure => run.1 = some (.error (.domain failure))
  | .ok (events, next) =>
      run = (some (.ok ()), Broker.publish { broker with state := next } bus (events.map .account))

namespace Meets

variable {α : Type} {flush : BusId → Act application (Except AppError Unit)}
  {broker : Broker application} {bus : BusId}

/-- Where the request has an event bus, the steps go on with it. -/
theorem present {context : Context} (present : context.events = some bus)
    {next : BusId → Handling Unit} {decision : Decision}
    (rest : Meets broker bus ((next bus).run.run flush broker) decision) :
    Meets broker bus ((liftM context.eventBus >>= next : Handling Unit).run.run flush broker)
      decision := by
  simp only [Context.eventBus, present]
  exact rest

/-- Steps that look come to a result, and the steps after them meet what is decided on it. -/
theorem bind {steps : Handling α} {result : Except DomainError α} {next : α → Handling Unit}
    {decide : α → Decision}
    (seen : steps.run.run flush broker = (some (result.mapError .domain), broker))
    (rest : ∀ value, Meets broker bus ((next value).run.run flush broker) (decide value)) :
    Meets broker bus ((steps >>= next).run.run flush broker) (result >>= decide) := by
  have ran : (steps >>= next).run.run flush broker = _ :=
    (Program.run_bind flush steps.run _ broker).trans (Act.bind_of_some seen)
  rw [ran]
  cases result with
  | error failure => exact rfl
  | ok value => exact rest value

/-- A stamp is the next one that the state can give. -/
theorem stamp {unsaved : Nat} {next : Stamp → Handling Unit} {decision : Decision}
    (rest : Meets broker bus
      ((next (broker.state.stampAfter unsaved)).run.run flush broker) decision) :
    Meets broker bus ((Handling.stamp unsaved >>= next).run.run flush broker) decision := rest

end Meets

/-- The handler of an order for one account, once the event bus is there. -/
theorem handleMoney_meets {context : Context} {bus : BusId} (present : context.events = some bus)
    (transition : Account → Stamp → Money → Except DomainError Account) (order : MoneyOrder)
    (flush : BusId → Act application (Except AppError Unit)) (broker : Broker application) :
    Meets broker bus ((handleMoney transition context order).run flush broker)
      (BankState.decideMoney transition order broker.state) := by
  refine .present present ?_
  refine .bind rfl fun id => ?_
  refine .bind rfl fun money => ?_
  refine .bind rfl fun account => .stamp ?_
  exact .bind rfl fun account => rfl

theorem handleTransfer_meets {context : Context} {bus : BusId}
    (present : context.events = some bus) (order : TransferOrder)
    (flush : BusId → Act application (Except AppError Unit)) (broker : Broker application) :
    Meets broker bus ((handleTransfer context order).run flush broker)
      (BankState.decideTransfer order broker.state) := by
  refine .present present ?_
  refine .bind rfl fun sourceId => ?_
  refine .bind rfl fun targetId => ?_
  refine .bind rfl fun apart => ?_
  refine .bind rfl fun money => ?_
  refine .bind rfl fun source => .stamp ?_
  refine .bind rfl fun source => ?_
  refine .bind rfl fun target => .stamp ?_
  exact .bind rfl fun target => rfl

theorem Order.handle_meets {context : Context} {bus : BusId} (present : context.events = some bus)
    (order : Order) (flush : BusId → Act application (Except AppError Unit))
    (broker : Broker application) :
    Meets broker bus ((order.handle context).run flush broker) (order.decide broker.state) := by
  cases order with
  | deposit order => exact handleMoney_meets present Account.deposit order flush broker
  | withdraw order => exact handleMoney_meets present Account.withdraw order flush broker
  | transfer order => exact handleTransfer_meets present order flush broker

/-! ## Handlers -/

namespace Order

variable {context : Context} {bus : BusId} (order : Order)
  (flush : BusId → Act application (Except AppError Unit)) {broker : Broker application}

theorem handle_busless (missing : context.events = none) (broker : Broker application) :
    (order.handle context).run flush broker = (some (.error .missingEventBus), broker) := by
  cases order <;>
    simp only [handle, handleDeposit, handleWithdraw, handleMoney, handleTransfer,
      Context.eventBus, missing] <;>
    rfl

/-- An order that is refused leaves everything as it was, since no change precedes the refusal. -/
theorem handle_refused (present : context.events = some bus) {failure : DomainError}
    (decided : order.decide broker.state = .error failure) :
    (order.handle context).run flush broker = (some (.error (.domain failure)), broker) := by
  have meets := order.handle_meets present flush broker
  rcases ran : (order.handle context).run flush broker with ⟨answer, after⟩
  rw [ran, decided] at meets
  obtain rfl : answer = some (.error (.domain failure)) := meets
  rw [(order.handle_checksFirst context).unchanged ran]

/-- What was decided is taken over, and its events are published. -/
theorem handle_carriedOut (present : context.events = some bus) {events : List AccountEvent}
    {next : BankState} (decided : order.decide broker.state = .ok (events, next)) :
    (order.handle context).run flush broker =
      (some (.ok ()), Broker.publish { broker with state := next } bus (events.map .account)) := by
  have meets := order.handle_meets present flush broker
  rw [decided] at meets
  exact meets

end Order

/-- The ways in which the handler of an order ends. -/
inductive Verdict (context : Context) (order : Order) (broker : Broker application) :
    Option (Except AppError Unit) × Broker application → Prop
  | busless (missing : context.events = none) :
      Verdict context order broker (some (.error .missingEventBus), broker)
  | refused {bus : BusId} {failure : DomainError} (present : context.events = some bus)
      (decided : order.decide broker.state = .error failure) :
      Verdict context order broker (some (.error (.domain failure)), broker)
  | carriedOut {bus : BusId} {events : List AccountEvent} {next : BankState}
      (present : context.events = some bus)
      (decided : order.decide broker.state = .ok (events, next)) :
      Verdict context order broker
        (some (.ok ()), Broker.publish { broker with state := next } bus (events.map .account))

/-- **The handler of an order ends in one of three ways.** -/
theorem Order.handle_verdict (order : Order) (context : Context)
    (flush : BusId → Act application (Except AppError Unit)) (broker : Broker application) :
    Verdict context order broker ((order.handle context).run flush broker) := by
  cases present : context.events with
  | none =>
      rw [order.handle_busless flush present broker]
      exact .busless present
  | some bus =>
      cases decided : order.decide broker.state with
      | error failure =>
          rw [order.handle_refused flush present decided]
          exact .refused present decided
      | ok result =>
          rw [order.handle_carriedOut flush present decided]
          exact .carriedOut present decided

/-- Handling an order either ends in an error and leaves the broker alone, or takes over what
was decided and publishes the events. -/
theorem Order.handle_run (order : Order) (context : Context)
    (flush : BusId → Act application (Except AppError Unit)) (broker : Broker application) :
    (∃ error, (order.handle context).run flush broker = (some (.error error), broker)) ∨
    ∃ bus events next, context.events = some bus ∧
      order.decide broker.state = .ok (events, next) ∧
      (order.handle context).run flush broker =
        (some (.ok ()), Broker.publish { broker with state := next } bus
          (events.map .account)) := by
  have verdict := order.handle_verdict context flush broker
  generalize (order.handle context).run flush broker = run at verdict ⊢
  cases verdict with
  | busless missing => exact Or.inl ⟨_, rfl⟩
  | refused present decided => exact Or.inl ⟨_, rfl⟩
  | carriedOut present decided => exact Or.inr ⟨_, _, _, present, decided, rfl⟩

end Bank

end Cqrs
