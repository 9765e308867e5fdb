/-
# Bank.Handler -- how orders, questions and events are handled

The handler of an order takes the event bus of the request and reads the identifiers and then
the money; it loads and moves one account after the other, so that a transfer has moved its
source when it loads its target; it saves them one by one, and publishes their events.  Every
step has its own effect: an account is loaded by a look at the state and saved by a change of
it.  The handler ends at the first error, and what was done before stays done.
-/
import Cqrs.Bank.Application
import Cqrs.Program

namespace Cqrs.Bank

set_option autoImplicit false

/-! ## Steps -/

/-- Steps of a handler, up to the first error. -/
abbrev Handling := ExceptT AppError (Program application)

instance : MonadLift (Except DomainError) Handling where
  monadLift result := Program.done (result.mapError .domain)

namespace Handling

def obtain (id : AccountId) : Handling Account :=
  Program.perform .inspect fun state => .done ((state.obtain id).mapError .domain)

/-- Stamps a transition that comes after so many others that are not saved yet. -/
def stamp (unsaved : Nat) : Handling Stamp :=
  Program.perform .inspect fun state => .done (.ok (state.stampAfter unsaved))

def save (account : Account) : Handling Unit :=
  Program.perform (.update (·.saveMoved account)) fun _ => .done (.ok ())

def publish (bus : BusId) (events : List AccountEvent) : Handling Unit :=
  Program.perform (.publish bus (events.map .account)) fun _ => .done (.ok ())

end Handling

/-! ## Orders -/

/-- Handles an order for one account, whose transition is given. -/
def handleMoney (transition : Account → Stamp → Money → Except DomainError Account)
    (context : Context) (order : MoneyOrder) : Reaction application := ExceptT.run do
  let bus ← context.eventBus
  let id ← Identifier.parse accountKind order.account
  let money ← Money.parse order.amount order.currency
  let account ← Handling.obtain id
  let stamp ← Handling.stamp 0
  let account ← transition account stamp money
  Handling.save account
  Handling.publish bus account.events.events

def handleDeposit : Context → MoneyOrder → Reaction application :=
  handleMoney Account.deposit

def handleWithdraw : Context → MoneyOrder → Reaction application :=
  handleMoney Account.withdraw

/-- Handles a transfer.  Neither account is saved before both have moved. -/
def handleTransfer (context : Context) (order : TransferOrder) : Reaction application :=
    ExceptT.run do
  let bus ← context.eventBus
  let sourceId ← Identifier.parse accountKind order.source
  let targetId ← Identifier.parse accountKind order.target
  checkApart sourceId targetId
  let money ← Money.parse order.amount order.currency
  let source ← Handling.obtain sourceId
  let stamp ← Handling.stamp 0
  let source ← source.transferOut stamp money targetId
  let target ← Handling.obtain targetId
  let stamp ← Handling.stamp 1
  let target ← target.transferIn stamp money sourceId
  Handling.save source
  Handling.save target
  Handling.publish bus (source.events.events ++ target.events.events)

/-! ## Questions and events -/

def answerStatus (text : String) : Program application (Except AppError AccountStatus) :=
  .perform .inspect fun state => .done (getStatus state.accounts text)

def announcement : BalanceChange → LogRecord
  | .deposited account amount _ =>
      ⟨.info, "money deposited", [("account_id", .text account.text),
        ("amount", .number amount.amount.toInt), ("currency", .text amount.currency.code)]⟩
  | .withdrawn account amount _ =>
      ⟨.info, "money withdrawn", [("account_id", .text account.text),
        ("amount", .number amount.amount.toInt), ("currency", .text amount.currency.code)]⟩
  | .transferredOut source target amount _ =>
      ⟨.info, "money transferred out", [("from", .text source.text), ("to", .text target.text),
        ("amount", .number amount.amount.toInt)]⟩
  | .transferredIn source target amount _ =>
      ⟨.info, "money transferred in", [("from", .text source.text), ("to", .text target.text),
        ("amount", .number amount.amount.toInt)]⟩

/-- Announces changes of one type in the log, passes over those of other types and refuses
events that are not of accounts. -/
def announce (eventType : String) : BankEvent → Reaction application
  | .account event =>
      if event.change.eventType = eventType then
        .perform (.log (announcement event.change)) fun _ => .done (.ok ())
      else .done (.ok ())
  | .foreign id eventType =>
      .done (.error (.validation s!"unexpected event {eventType} ({id})"))

end Cqrs.Bank
