/-
# Bank.Assembly -- the bank with its handlers

`assemble` binds and registers the handlers of the bank and subscribes the announcements; a
request gets an event bus of its own by `openRequest`.
-/
import Cqrs.Bank.Handler
import Cqrs.CommandBus
import Cqrs.QueryBus

namespace Cqrs.Bank

set_option autoImplicit false

def depositHandler : String := "bank_account.deposit_money"

def withdrawHandler : String := "bank_account.withdraw_money"

def transferHandler : String := "bank_account.transfer_money"

def statusHandler : String := "bank_account.get_status"

/-- The ids under which the announcements are bound, with their types of event. -/
def announcers : List (String × String) := [
  ("bank_account.on_money_deposited", BalanceChange.depositedType),
  ("bank_account.on_money_withdrawn", BalanceChange.withdrawnType),
  ("bank_account.on_money_transferred_out", BalanceChange.transferredOutType),
  ("bank_account.on_money_transferred_in", BalanceChange.transferredInType)]

/-- The bank with its handlers bound and registered and its announcements subscribed. -/
def assemble (state : BankState) : Broker application :=
  let broker := (Broker.start (A := application) state)
    |>.bind depositHandler (.command .deposit handleDeposit)
    |>.bind withdrawHandler (.command .withdraw handleWithdraw)
    |>.bind transferHandler (.command .transfer handleTransfer)
    |>.bind statusHandler (.query .status fun _ question => answerStatus question)
  let broker := announcers.foldl
    (fun broker entry => broker.bind entry.1 (.event (announce entry.2))) broker
  let broker := broker
    |>.registerCommand .deposit depositHandler
    |>.registerCommand .withdraw withdrawHandler
    |>.registerCommand .transfer transferHandler
    |>.registerQuery .status statusHandler
  announcers.foldl (fun broker entry => broker.subscribe entry.2 entry.1) broker

/-- The context of a new request, with an event bus of its own. -/
def openRequest (broker : Broker application) : Context × Broker application :=
  let (bus, broker) := broker.openBus
  (({} : Context).withEvents bus, broker)

def pipeline (unit : UnitOfWork) (policy : FlushPolicy) : CommandBus :=
  .pipeline unit policy

end Cqrs.Bank
