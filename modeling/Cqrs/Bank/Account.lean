/-
# Bank.Account -- accounts and their transitions

An account holds a balance, the transactions that moved it and the events it recorded
since it was loaded.  Each transition checks the currency and then the balance, and
gives a new account with the new balance, one more transaction and one more event.
What a transition takes from outside, fresh identifiers and the moment, is its `Stamp`.
-/
import Cqrs.Bank.BalanceChange
import Cqrs.Store

namespace Cqrs.Bank

set_option autoImplicit false

/-- Fresh identifiers and the moment of a transition. -/
structure Stamp where
  transactionId : TransactionId
  eventId : EventId
  now : Instant
deriving DecidableEq

structure Account where
  id : AccountId
  balance : Balance
  transactions : List Transaction
  events : EventLog AccountEvent
deriving DecidableEq

namespace Account

/-- An account without history.  Without an identifier it takes the fresh one, without a
balance it holds nothing. -/
def create (fresh : AccountId) (id : Option AccountId) (balance : Option Balance) : Account :=
  ⟨id.getD fresh, balance.getD default, [], .empty⟩

def build (id : AccountId) (balance : Balance) (transactions : List Transaction) : Account :=
  ⟨id, balance, transactions, .empty⟩

/-- Money of another currency cannot move the balance. -/
def checkCurrency (account : Account) (money : Money) : Except DomainError Unit :=
  if account.balance.currency = money.currency then .ok ()
  else .error (.currencyMismatch account.balance.currency.code money.currency.code)

/-- The account with a new balance, one more transaction and one more event. -/
def moved (account : Account) (stamp : Stamp) (balance : Balance) (kind : TransactionType)
    (money : Money) (counterparty : Option AccountId) (change : BalanceChange) : Account where
  id := account.id
  balance := balance
  transactions := account.transactions ++
    [⟨stamp.transactionId, kind, money, counterparty, stamp.now⟩]
  events := account.events.recorded (.record stamp.eventId stamp.now account.id change)

def deposit (account : Account) (stamp : Stamp) (money : Money) : Except DomainError Account := do
  account.checkCurrency money
  let balance ← account.balance.credit money
  return account.moved stamp balance .deposit money none
    (.deposited account.id money stamp.transactionId)

def withdraw (account : Account) (stamp : Stamp) (money : Money) :
    Except DomainError Account := do
  account.checkCurrency money
  let balance ← account.balance.debit money
  return account.moved stamp balance .withdrawal money none
    (.withdrawn account.id money stamp.transactionId)

def transferOut (account : Account) (stamp : Stamp) (money : Money) (target : AccountId) :
    Except DomainError Account := do
  account.checkCurrency money
  let balance ← account.balance.debit money
  return account.moved stamp balance .transferOut money (some target)
    (.transferredOut account.id target money stamp.transactionId)

def transferIn (account : Account) (stamp : Stamp) (money : Money) (source : AccountId) :
    Except DomainError Account := do
  account.checkCurrency money
  let balance ← account.balance.credit money
  return account.moved stamp balance .transferIn money (some source)
    (.transferredIn source account.id money stamp.transactionId)

/-- The account as it is loaded again. -/
def withoutEvents (account : Account) : Account :=
  { account with events := .empty }

def sameIdentity (a b : Account) : Bool :=
  a.id == b.id

instance : Aggregate Account where
  kind := accountKind
  id := Account.id
  typeName := AccountEvent.aggregateType
  withoutEvents := withoutEvents

end Account

end Cqrs.Bank
