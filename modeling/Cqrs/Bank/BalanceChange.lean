/-
# Bank.BalanceChange -- the events of an account

A change of a balance names the accounts concerned, the money and the transaction.  A
deposit and a withdrawal name one account, a transfer the two it runs between, on either
side of it.  The type and the payload of an event are those of its change.
-/
import Cqrs.Bank.Transaction
import Cqrs.Event.Log
import Cqrs.Event.Metadata

namespace Cqrs.Bank

set_option autoImplicit false

/-- How a balance changed. -/
inductive BalanceChange where
  | deposited (account : AccountId) (amount : Money) (transaction : TransactionId)
  | withdrawn (account : AccountId) (amount : Money) (transaction : TransactionId)
  | transferredOut (source target : AccountId) (amount : Money) (transaction : TransactionId)
  | transferredIn (source target : AccountId) (amount : Money) (transaction : TransactionId)
deriving DecidableEq

namespace BalanceChange

def depositedType : String := "bank_account.money_deposited"

def withdrawnType : String := "bank_account.money_withdrawn"

def transferredOutType : String := "bank_account.money_transferred_out"

def transferredInType : String := "bank_account.money_transferred_in"

def eventTypes : List String :=
  [depositedType, withdrawnType, transferredOutType, transferredInType]

def eventType : BalanceChange → String
  | .deposited _ _ _ => depositedType
  | .withdrawn _ _ _ => withdrawnType
  | .transferredOut _ _ _ _ => transferredOutType
  | .transferredIn _ _ _ _ => transferredInType

def amount : BalanceChange → Money
  | .deposited _ amount _ | .withdrawn _ amount _ => amount
  | .transferredOut _ _ amount _ | .transferredIn _ _ amount _ => amount

def transactionId : BalanceChange → TransactionId
  | .deposited _ _ transaction | .withdrawn _ _ transaction => transaction
  | .transferredOut _ _ _ transaction | .transferredIn _ _ _ transaction => transaction

def accountPayload (account : AccountId) (amount : Money) (transaction : TransactionId) : Json :=
  .ofEntries [
    ("account_id", account.toJson),
    ("amount", .int amount.amount.toInt),
    ("currency", Vocabulary.toJson amount.currency),
    ("transaction_id", transaction.toJson)]

def transferPayload (source target : AccountId) (amount : Money) (transaction : TransactionId) :
    Json :=
  .ofEntries [
    ("from_account_id", source.toJson),
    ("to_account_id", target.toJson),
    ("amount", .int amount.amount.toInt),
    ("currency", Vocabulary.toJson amount.currency),
    ("transaction_id", transaction.toJson)]

def payload : BalanceChange → Json
  | .deposited account amount transaction => accountPayload account amount transaction
  | .withdrawn account amount transaction => accountPayload account amount transaction
  | .transferredOut source target amount transaction =>
      transferPayload source target amount transaction
  | .transferredIn source target amount transaction =>
      transferPayload source target amount transaction

end BalanceChange

structure AccountEvent where
  metadata : EventMetadata
  change : BalanceChange
deriving DecidableEq

namespace AccountEvent

/-- The name of the type of the objects that record these events. -/
def aggregateType : String := "bank_account"

/-- The event by which an account records a change. -/
def record (id : EventId) (now : Instant) (account : AccountId) (change : BalanceChange) :
    AccountEvent where
  metadata := {
    eventId := id.text
    aggregateId := account.text
    aggregateType := aggregateType
    occurredAt := now }
  change := change

instance : DomainEvent AccountEvent where
  eventId event := event.metadata.eventId
  eventType event := event.change.eventType
  eventVersion event := event.metadata.eventVersion
  payload event := event.change.payload
  occurredAt event := event.metadata.occurredAt

end AccountEvent

end Cqrs.Bank
