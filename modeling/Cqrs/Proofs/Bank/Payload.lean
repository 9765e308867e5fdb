/-
# Proofs.Bank.Payload -- an event tells all of its change

The type and the payload of an event are all that those get who keep events and not accounts.
`BalanceChange.ofPayload?` reads them back: each part of a payload is written so that it is read as
nothing else (`Exact`), so what is read is the one change of this type whose payload lies in the
object (`ofPayload?_iff`).  A payload has no number with a point, so that no other object is
strictly equal to it (`rigid_payload`).  Hence two changes of one type with one payload are one
change (`payload_tells_change`).
-/
import Cqrs.Bank.BalanceChange
import Cqrs.Proofs.Bank.Money
import Cqrs.Proofs.Identifier
import Cqrs.Proofs.Json.Equality

namespace Cqrs

set_option autoImplicit false

/-! ## Reading parts -/

/-- What is written is read again, and nothing else is read as it. -/
def Json.Exact {α : Type} (read : Json → Option α) (write : α → Json) : Prop :=
  ∀ value content, read value = some content ↔ value = write content

def Json.readAt? {α : Type} (read : Json → Option α) (payload : Json) (key : String) : Option α :=
  (payload.get? key).bind read

theorem Json.Exact.readAt?_iff {α : Type} {read : Json → Option α} {write : α → Json}
    (exact : Json.Exact read write) {payload : Json} {key : String} {content : α} :
    payload.readAt? read key = some content ↔ payload.get? key = some (write content) := by
  rw [Json.readAt?, Option.bind_eq_some_iff]
  constructor
  · rintro ⟨value, held, found⟩
    rw [held, (exact value content).mp found]
  · intro held
    exact ⟨_, held, (exact _ _).mpr rfl⟩

def Identifier.ofJson? (kind : IdentifierKind) (value : Json) : Option (Identifier kind) :=
  (Identifier.ofJson kind value).toOption

theorem Identifier.exact_ofJson? (kind : IdentifierKind) :
    Json.Exact (Identifier.ofJson? kind) Identifier.toJson := by
  intro value id
  rw [← Identifier.ofJson_ok_iff, Identifier.ofJson?]
  cases Identifier.ofJson kind value <;> simp [Except.toOption]

namespace Bank

/-- Reads an amount, which 64 bits can hold. -/
def amountOfJson? : Json → Option Int64
  | .number (.integer value) =>
      if (Int64.ofInt value).toInt = value then some (Int64.ofInt value) else none
  | _ => none

theorem exact_amountOfJson? : Json.Exact amountOfJson? fun amount => .int amount.toInt := by
  intro value amount
  constructor
  · intro found
    unfold amountOfJson? at found
    split at found
    · split at found
      · rename_i number whole
        cases found
        exact congrArg Json.int whole.symm
      · cases found
    · cases found
  · rintro rfl
    simp [amountOfJson?, Json.int]

def Currency.ofJson? : Json → Option Currency
  | .string code => (Currency.parse code).toOption
  | _ => none

theorem Currency.exact_ofJson? : Json.Exact Currency.ofJson? Vocabulary.toJson := by
  intro value currency
  constructor
  · intro found
    cases value with
    | string code =>
        have parsed : Currency.parse code = .ok currency := by
          cases outcome : Currency.parse code <;> simp_all [Currency.ofJson?, Except.toOption]
        exact congrArg Json.string (Currency.parse_ok parsed).symm
    | null | bool | number | array | object => cases found
  · rintro rfl
    have parsed : Currency.parse (Vocabulary.name currency) = .ok currency := currency.parse_code
    rw [Vocabulary.toJson, Currency.ofJson?, parsed]
    rfl

def Money.ofPayload? (payload : Json) : Option Money := do
  let amount ← payload.readAt? amountOfJson? "amount"
  let currency ← payload.readAt? Currency.ofJson? "currency"
  (Money.make amount currency).toOption

theorem Money.ofPayload?_iff {payload : Json} {money : Money} :
    Money.ofPayload? payload = some money ↔
      payload.get? "amount" = some (.int money.amount.toInt) ∧
        payload.get? "currency" = some (Vocabulary.toJson money.currency) := by
  rw [← exact_amountOfJson?.readAt?_iff, ← Currency.exact_ofJson?.readAt?_iff]
  simp only [Money.ofPayload?, Option.bind_eq_bind, Option.bind_eq_some_iff]
  constructor
  · rintro ⟨amount, amounts, currency, currencies, made⟩
    unfold Money.make at made
    split at made
    · cases made
      exact ⟨amounts, currencies⟩
    · cases made
  · rintro ⟨amounts, currencies⟩
    refine ⟨_, amounts, _, currencies, ?_⟩
    rw [Money.make, dif_pos money.positive]
    rfl

namespace BalanceChange

/-! ## Reading changes -/

/-- Reads a change to one account. -/
def readAccount? (change : AccountId → Money → TransactionId → BalanceChange) (payload : Json) :
    Option BalanceChange := do
  let account ← payload.readAt? (Identifier.ofJson? accountKind) "account_id"
  let money ← Money.ofPayload? payload
  let transaction ← payload.readAt? (Identifier.ofJson? transactionKind) "transaction_id"
  return change account money transaction

/-- Reads one side of a transfer. -/
def readTransfer? (change : AccountId → AccountId → Money → TransactionId → BalanceChange)
    (payload : Json) : Option BalanceChange := do
  let source ← payload.readAt? (Identifier.ofJson? accountKind) "from_account_id"
  let target ← payload.readAt? (Identifier.ofJson? accountKind) "to_account_id"
  let money ← Money.ofPayload? payload
  let transaction ← payload.readAt? (Identifier.ofJson? transactionKind) "transaction_id"
  return change source target money transaction

/-- Reads a change out of the type and the payload of an event; other entries are left alone. -/
def ofPayload? (eventType : String) (payload : Json) : Option BalanceChange :=
  if eventType = depositedType then readAccount? .deposited payload
  else if eventType = withdrawnType then readAccount? .withdrawn payload
  else if eventType = transferredOutType then readTransfer? .transferredOut payload
  else if eventType = transferredInType then readTransfer? .transferredIn payload
  else none

theorem extends_accountPayload_iff {payload : Json} {account : AccountId} {money : Money}
    {transaction : TransactionId} :
    payload.Extends (accountPayload account money transaction) ↔
      payload.get? "account_id" = some account.toJson ∧
        (payload.get? "amount" = some (.int money.amount.toInt) ∧
          payload.get? "currency" = some (Vocabulary.toJson money.currency)) ∧
        payload.get? "transaction_id" = some transaction.toJson := by
  rw [accountPayload, Json.extends_ofEntries_iff (by simp)]
  simp [and_assoc]

theorem extends_transferPayload_iff {payload : Json} {source target : AccountId} {money : Money}
    {transaction : TransactionId} :
    payload.Extends (transferPayload source target money transaction) ↔
      payload.get? "from_account_id" = some source.toJson ∧
        payload.get? "to_account_id" = some target.toJson ∧
        (payload.get? "amount" = some (.int money.amount.toInt) ∧
          payload.get? "currency" = some (Vocabulary.toJson money.currency)) ∧
        payload.get? "transaction_id" = some transaction.toJson := by
  rw [transferPayload, Json.extends_ofEntries_iff (by simp)]
  simp [and_assoc]

theorem readAccount?_iff {change : AccountId → Money → TransactionId → BalanceChange}
    {payload : Json} {found : BalanceChange} :
    readAccount? change payload = some found ↔
      ∃ account money transaction, found = change account money transaction ∧
        payload.Extends (accountPayload account money transaction) := by
  simp only [extends_accountPayload_iff, readAccount?, Option.bind_eq_bind, Option.bind_eq_some_iff,
    (Identifier.exact_ofJson? _).readAt?_iff, Money.ofPayload?_iff, Option.pure_def,
    Option.some.injEq]
  constructor
  · rintro ⟨account, accounts, money, moneys, transaction, transactions, rfl⟩
    exact ⟨account, money, transaction, rfl, accounts, moneys, transactions⟩
  · rintro ⟨account, money, transaction, rfl, accounts, moneys, transactions⟩
    exact ⟨account, accounts, money, moneys, transaction, transactions, rfl⟩

theorem readTransfer?_iff {change : AccountId → AccountId → Money → TransactionId → BalanceChange}
    {payload : Json} {found : BalanceChange} :
    readTransfer? change payload = some found ↔
      ∃ source target money transaction, found = change source target money transaction ∧
        payload.Extends (transferPayload source target money transaction) := by
  simp only [extends_transferPayload_iff, readTransfer?, Option.bind_eq_bind,
    Option.bind_eq_some_iff, (Identifier.exact_ofJson? _).readAt?_iff, Money.ofPayload?_iff,
    Option.pure_def, Option.some.injEq]
  constructor
  · rintro ⟨source, sources, target, targets, money, moneys, transaction, transactions, rfl⟩
    exact ⟨source, target, money, transaction, rfl, sources, targets, moneys, transactions⟩
  · rintro ⟨source, target, money, transaction, rfl, sources, targets, moneys, transactions⟩
    exact ⟨source, sources, target, targets, money, moneys, transaction, transactions, rfl⟩

/-- The change that is read is the one of this type whose payload lies in the object. -/
theorem ofPayload?_iff {type : String} {payload : Json} {change : BalanceChange} :
    ofPayload? type payload = some change ↔
      change.eventType = type ∧ payload.Extends change.payload := by
  constructor
  · intro found
    unfold ofPayload? at found
    split at found
    · rename_i deposit
      obtain ⟨account, money, transaction, rfl, extends'⟩ := readAccount?_iff.mp found
      exact ⟨deposit.symm, extends'⟩
    split at found
    · rename_i withdrawal
      obtain ⟨account, money, transaction, rfl, extends'⟩ := readAccount?_iff.mp found
      exact ⟨withdrawal.symm, extends'⟩
    split at found
    · rename_i transfer
      obtain ⟨source, target, money, transaction, rfl, extends'⟩ := readTransfer?_iff.mp found
      exact ⟨transfer.symm, extends'⟩
    split at found
    · rename_i transfer
      obtain ⟨source, target, money, transaction, rfl, extends'⟩ := readTransfer?_iff.mp found
      exact ⟨transfer.symm, extends'⟩
    · cases found
  · rintro ⟨rfl, holds⟩
    cases change with
    | deposited account money transaction =>
        exact readAccount?_iff.mpr ⟨account, money, transaction, rfl, holds⟩
    | withdrawn account money transaction =>
        exact readAccount?_iff.mpr ⟨account, money, transaction, rfl, holds⟩
    | transferredOut source target money transaction =>
        exact readTransfer?_iff.mpr ⟨source, target, money, transaction, rfl, holds⟩
    | transferredIn source target money transaction =>
        exact readTransfer?_iff.mpr ⟨source, target, money, transaction, rfl, holds⟩

theorem rigid_payload (change : BalanceChange) : change.payload.Rigid := by
  cases change with
  | deposited | withdrawn =>
      apply Json.rigid_ofEntries
      simp [Json.rigid_int, Json.rigid_string, Identifier.toJson, Vocabulary.toJson]
  | transferredOut | transferredIn =>
      apply Json.rigid_ofEntries
      simp [Json.rigid_int, Json.rigid_string, Identifier.toJson, Vocabulary.toJson]

/-- **An event tells all of its change.**  What is strictly equal to the payload of a change is read
as the change, by its type.  What is read out of any object is a change of the type that was given,
and the object holds all of the change's payload.  So two changes of one type with payloads that are
strictly equal are one change.  An event has the type and the payload of its change, whatever else
is known of it, and so its change is read out of these. -/
theorem payload_tells_change :
    (∀ (change : BalanceChange) (payload : Json), payload.same change.payload = true →
      ofPayload? change.eventType payload = some change) ∧
    (∀ (type : String) (payload : Json) (change : BalanceChange),
      ofPayload? type payload = some change ↔
        change.eventType = type ∧ payload.Extends change.payload) ∧
    (∀ change other : BalanceChange, change.eventType = other.eventType →
      change.payload.same other.payload = true → change = other) ∧
    ∀ (metadata : EventMetadata) (change : BalanceChange),
      DomainEvent.eventType (AccountEvent.mk metadata change) = change.eventType ∧
      DomainEvent.payload (AccountEvent.mk metadata change) = change.payload ∧
      ofPayload? (DomainEvent.eventType (AccountEvent.mk metadata change))
        (DomainEvent.payload (AccountEvent.mk metadata change)) = some change := by
  have recovers : ∀ (change : BalanceChange) (payload : Json),
      payload.same change.payload = true → ofPayload? change.eventType payload = some change := by
    intro change payload same
    rw [change.rigid_payload payload same]
    exact ofPayload?_iff.mpr ⟨rfl, .refl _⟩
  refine ⟨recovers, fun _ _ _ => ofPayload?_iff, ?_, ?_⟩
  · intro change other types payloads
    have one : ofPayload? other.eventType change.payload = some change := by
      rw [← types]
      exact recovers change change.payload (Json.same_refl _)
    have another := recovers other change.payload payloads
    exact Option.some.inj (one.symm.trans another)
  · intro metadata change
    exact ⟨rfl, rfl, recovers change change.payload (Json.same_refl _)⟩

end BalanceChange

end Bank

end Cqrs
