/-
# Bank.Projection -- the read side of accounts

A projection is an account in plain texts and numbers, as it is read and filtered;
`AccountStatus.ofProjection` reads one back and fails where a text does not stand for
what it should.
-/
import Cqrs.Bank.Account
import Cqrs.Filter.Criterion

namespace Cqrs.Bank

set_option autoImplicit false

/-- A transaction in plain texts and numbers. -/
structure TransactionProjection where
  id : String
  kind : String
  amount : Int64
  currency : String
  createdAt : String
deriving DecidableEq, Repr

/-- An account in plain texts and numbers. -/
structure AccountProjection where
  id : String
  balanceAmount : Int64
  currency : String
  transactions : List TransactionProjection
deriving DecidableEq, Repr

namespace TransactionProjection

/-- The projection of a transaction, its moment to the second. -/
def ofTransaction (transaction : Transaction) : TransactionProjection where
  id := transaction.id.text
  kind := transaction.kind.name
  amount := transaction.amount.amount
  currency := transaction.amount.currency.code
  createdAt := transaction.createdAt.secondsText

def toJson (projection : TransactionProjection) : Json :=
  .ofEntries [
    ("id", .string projection.id),
    ("type", .string projection.kind),
    ("amount", .int projection.amount.toInt),
    ("currency", .string projection.currency),
    ("createdAt", .string projection.createdAt)]

end TransactionProjection

namespace AccountProjection

def ofAccount (account : Account) : AccountProjection where
  id := account.id.text
  balanceAmount := account.balance.amount
  currency := account.balance.currency.code
  transactions := account.transactions.map .ofTransaction

def toJson (projection : AccountProjection) : Json :=
  .ofEntries [
    ("id", .string projection.id),
    ("balanceAmount", .int projection.balanceAmount.toInt),
    ("currency", .string projection.currency),
    ("transactions", .array (projection.transactions.map (·.toJson)))]

instance : Filter.Projection AccountProjection where
  filterable := ["id", "balanceAmount", "balance", "currency"]
  field? projection name :=
    if name = "id" then some (.string projection.id)
    else if name = "balanceAmount" ∨ name = "balance" then
      some (.int projection.balanceAmount.toInt)
    else if name = "currency" then some (.string projection.currency)
    else none

end AccountProjection

/-- A transaction as the status of an account lists it. -/
structure TransactionStatus where
  id : String
  kind : TransactionType
  amount : Int64
  currency : String
  createdAt : String
deriving DecidableEq, Repr

structure AccountStatus where
  accountId : AccountId
  balance : Balance
  transactions : List TransactionStatus
deriving DecidableEq

namespace TransactionStatus

def ofProjection (projection : TransactionProjection) : Except DomainError TransactionStatus :=
  (TransactionType.parse projection.kind).map fun kind =>
    ⟨projection.id, kind, projection.amount, projection.currency, projection.createdAt⟩

def toJson (status : TransactionStatus) : Json :=
  .ofEntries [
    ("id", .string status.id),
    ("type", Vocabulary.toJson status.kind),
    ("amount", .int status.amount.toInt),
    ("currency", .string status.currency),
    ("createdAt", .string status.createdAt)]

end TransactionStatus

namespace AccountStatus

/-- Reads the projection of an account: identifier, balance and then the transactions. -/
def ofProjection (projection : AccountProjection) : Except DomainError AccountStatus := do
  let accountId ← Identifier.parse accountKind projection.id
  let balance ← Balance.parse projection.balanceAmount projection.currency
  let transactions ← projection.transactions.mapM TransactionStatus.ofProjection
  return ⟨accountId, balance, transactions⟩

def toJson (status : AccountStatus) : Json :=
  .ofEntries [
    ("accountId", status.accountId.toJson),
    ("balance", status.balance.toJson),
    ("transactions", .array (status.transactions.map (·.toJson)))]

end AccountStatus

/-- The projection of a stored account, by the text of its identifier. -/
def getProjection (store : Store Account) (text : String) :
    Except AppError (Option AccountProjection) :=
  match Identifier.parse accountKind text with
  | .ok id => .ok ((store.find? id).map .ofAccount)
  | .error error => .error (.domain error)

/-- A page of the projections of the stored accounts that meet all criteria. -/
def filterProjections (store : Store Account) (offset limit : Nat)
    (criteria : List (Filter.Criterion AccountProjection)) : List AccountProjection :=
  Filter.page (store.items.map .ofAccount) offset limit criteria

/-- The status of a stored account, by the text of its identifier. -/
def getStatus (store : Store Account) (text : String) : Except AppError AccountStatus :=
  match Identifier.parse accountKind text with
  | .error error => .error (.domain error)
  | .ok id =>
      match getProjection store id.text with
      | .error error => .error error
      | .ok none => .error (.domain (.notFound "BankAccount" (some id.text)))
      | .ok (some projection) =>
          match AccountStatus.ofProjection projection with
          | .ok status => .ok status
          | .error error => .error (.domain error)

end Cqrs.Bank
