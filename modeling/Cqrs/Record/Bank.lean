/-
# Record.Bank -- accounts and what belongs to them, as records

Records are read in two steps: first the fields, which may be missing or of another kind,
and then the values, which the rules of the bank may refuse, one after another.
-/
import Cqrs.Bank.Projection
import Cqrs.Bank.Order
import Cqrs.Record.Field

namespace Cqrs

set_option autoImplicit false

namespace Instant

def toJson (instant : Instant) : Json :=
  .ofEntries [("secs", .int instant.seconds), ("nanos", .int instant.nanos)]

def ofJson (record : Json) : Decoded Instant := do
  let seconds ← (← record.field "secs").asInt
  let nanos ← record.read? "nanos" Json.asNat
  return ⟨seconds, nanos.getD 0 % 1000000000, Nat.mod_lt _ (by decide)⟩

end Instant

namespace Bank

def Money.ofJson (record : Json) : Decoded (Except DomainError Money) := do
  return Money.parse (← record.int64 "amount") (← record.text "currency")

/-- Reads a balance, of which both parts may be missing. -/
def Balance.ofJson (record : Json) : Decoded (Except DomainError Balance) := do
  let amount ← record.read? "amount" Json.asInt64
  let currency ← record.text? "currency"
  match amount, currency with
  | some amount, some currency => return Balance.parse amount currency
  | some amount, none => return Balance.make amount default
  | none, some currency => return (Currency.parse currency).map Balance.zero
  | none, none => return .ok default

namespace Transaction

def ofJson (now : Instant) (record : Json) : Decoded (Except DomainError Transaction) := do
  let id ← record.text "id"
  let kind ← record.text "kind"
  let amount ← Money.ofJson record
  let counterparty ← record.text? "counterparty"
  let createdAt ← Instant.ofJson (← record.field "created_at")
  return do
    let id ← Identifier.parse transactionKind id
    let kind ← TransactionType.parse kind
    let amount ← amount
    let counterparty ← counterparty.mapM (Identifier.parse accountKind)
    build now id kind amount counterparty createdAt

def toJson (transaction : Transaction) : Json :=
  .ofEntries [("id", transaction.id.toJson), ("kind", Vocabulary.toJson transaction.kind),
    ("amount", .int transaction.amount.amount.toInt),
    ("currency", Vocabulary.toJson transaction.amount.currency),
    ("counterparty", .optional (transaction.counterparty.map (·.text))),
    ("created_at", transaction.createdAt.toJson)]

end Transaction

namespace AccountEvent

def toJson (event : AccountEvent) : Json :=
  .ofEntries [("event_id", .string (DomainEvent.eventId event)),
    ("event_type", .string (DomainEvent.eventType event)),
    ("event_version", .string (DomainEvent.eventVersion event)),
    ("occurred_at", (DomainEvent.occurredAt event).toJson),
    ("payload", DomainEvent.payload event),
    ("aggregate_id", .string event.metadata.aggregateId),
    ("aggregate_type", .string event.metadata.aggregateType),
    ("transaction_id", event.change.transactionId.toJson)]

end AccountEvent

namespace Account

/-- Reads an account: an identifier, a balance and transactions, all of which may be
missing. -/
def ofJson (now : Instant) (fresh : AccountId) (record : Json) :
    Decoded (Except DomainError Account) := do
  let id ← record.text? "id"
  let balance ← record.read? "balance" Balance.ofJson
  let transactions ← (← record.list "transactions").mapM (Transaction.ofJson now)
  return do
    let id ← id.mapM (Identifier.parse accountKind)
    let balance ← balance.mapM fun balance => balance
    let transactions ← transactions.mapM fun transaction => transaction
    return { create fresh id balance with transactions := transactions }

def toJson (account : Account) : Json :=
  .ofEntries [("id", account.id.toJson), ("balance", account.balance.toJson),
    ("transactions", .array (account.transactions.map (·.toJson))),
    ("events", .array (account.events.events.map (·.toJson)))]

/-- Identifier, balance, currency and the numbers of transactions and events. -/
def brief (account : Account) : Json :=
  .array [account.id.toJson, .int account.balance.amount.toInt,
    Vocabulary.toJson account.balance.currency, .int account.transactions.length,
    .int account.events.size]

end Account

namespace AccountProjection

def ofJson (record : Json) : Decoded AccountProjection := do
  let transactions ← (← record.list "transactions").mapM fun record => do
    return ({
      id := ← record.text "id"
      kind := ← record.text "kind"
      amount := ← record.int64 "amount"
      currency := ← record.text "currency"
      createdAt := ← record.text "created_at" } : TransactionProjection)
  return {
    id := ← record.text "id"
    balanceAmount := ← record.int64 "balance_amount"
    currency := ← record.text "currency"
    transactions := transactions }

end AccountProjection

namespace BalanceChange

/-- Reads a change: the money, then the transaction, then the accounts. -/
def ofJson (record : Json) : Decoded (Except DomainError BalanceChange) := do
  let kind ← record.text "kind"
  let money ← Money.ofJson record
  let transaction ← record.text "transaction_id"
  let account ← record.textOr "account_id" ""
  let source ← record.textOr "from_account_id" ""
  let target ← record.textOr "to_account_id" ""
  return do
    let money ← money
    let transaction ← Identifier.parse transactionKind transaction
    let parse := Identifier.parse accountKind
    match kind with
    | "deposited" => return .deposited (← parse account) money transaction
    | "withdrawn" => return .withdrawn (← parse account) money transaction
    | "out" => return .transferredOut (← parse source) (← parse target) money transaction
    | _ => return .transferredIn (← parse source) (← parse target) money transaction

end BalanceChange

end Bank

end Cqrs
