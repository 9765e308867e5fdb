/-
# Bank.Application -- the bank as an application

The bank has orders as commands, the status of an account as its query, and the events of
its accounts beside events that come from elsewhere.
-/
import Cqrs.Application
import Cqrs.Bank.Order
import Cqrs.Bank.Projection

namespace Cqrs.Bank

set_option autoImplicit false

/-- An event on a bus of the bank. -/
inductive BankEvent where
  /-- An event of an account. -/
  | account (event : AccountEvent)
  /-- An event from elsewhere. -/
  | foreign (id eventType : String)
deriving DecidableEq

namespace BankEvent

def id : BankEvent → String
  | .account event => event.metadata.eventId
  | .foreign id _ => id

def eventType : BankEvent → String
  | .account event => event.change.eventType
  | .foreign _ eventType => eventType

end BankEvent

/-- The kinds of command of the bank.  Nothing in the bank closes an account. -/
inductive BankCommand where
  | deposit
  | withdraw
  | transfer
  | close
deriving DecidableEq, Repr

namespace BankCommand

def name : BankCommand → String
  | .deposit => "DepositMoney"
  | .withdraw => "WithdrawMoney"
  | .transfer => "TransferMoney"
  | .close => "CloseAccount"

def ofName? (text : String) : Option BankCommand :=
  [deposit, withdraw, transfer, close].find? (·.name == text)

abbrev Payload : BankCommand → Type
  | .deposit | .withdraw => MoneyOrder
  | .transfer => TransferOrder
  | .close => Unit

end BankCommand

/-- The kinds of query of the bank. -/
inductive BankQuery where
  | status
deriving DecidableEq, Repr

namespace BankQuery

def name : BankQuery → String
  | .status => "GetBankAccountStatus"

abbrev Question : BankQuery → Type
  | .status => String

abbrev Answer : BankQuery → Type
  | .status => AccountStatus

end BankQuery

abbrev application : Application where
  Event := BankEvent
  State := BankState
  Command := BankCommand
  Payload := BankCommand.Payload
  commandName := BankCommand.name
  Query := BankQuery
  Question := BankQuery.Question
  Answer := BankQuery.Answer
  queryName := BankQuery.name
  eventId := BankEvent.id
  eventType := BankEvent.eventType

end Cqrs.Bank
