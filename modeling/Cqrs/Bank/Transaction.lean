/-
# Bank.Transaction -- the entries of an account's history
-/
import Cqrs.Bank.Money
import Cqrs.Identifier
import Cqrs.Instant

namespace Cqrs.Bank

set_option autoImplicit false

abbrev accountKind : IdentifierKind := ⟨"BankAccountId", "acc-", "Bank account id"⟩

abbrev transactionKind : IdentifierKind := ⟨"TransactionId", "txn-", "Transaction id"⟩

abbrev eventKind : IdentifierKind := ⟨"BankAccountEventId", "evt-", "Event id"⟩

abbrev AccountId := Identifier accountKind

abbrev TransactionId := Identifier transactionKind

abbrev EventId := Identifier eventKind

/-- The ways in which a balance moves. -/
inductive TransactionType where
  | deposit
  | withdrawal
  | transferIn
  | transferOut
deriving DecidableEq, Repr

namespace TransactionType

def name : TransactionType → String
  | .deposit => "deposit"
  | .withdrawal => "withdrawal"
  | .transferIn => "transfer_in"
  | .transferOut => "transfer_out"

instance : Vocabulary TransactionType where
  values := [.deposit, .withdrawal, .transferIn, .transferOut]
  name := name

def parse (text : String) : Except DomainError TransactionType :=
  match Vocabulary.read? text with
  | some kind => .ok kind
  | none => .error (.invalidValue ("Unknown transaction type \"" ++ text ++ "\""))

end TransactionType

/-- One movement of a balance. -/
structure Transaction where
  id : TransactionId
  kind : TransactionType
  amount : Money
  /-- The other account of a transfer. -/
  counterparty : Option AccountId
  createdAt : Instant
deriving DecidableEq

namespace Transaction

/-- A transaction out of a record of it, which cannot lie in the future. -/
def build (now : Instant) (id : TransactionId) (kind : TransactionType) (amount : Money)
    (counterparty : Option AccountId) (createdAt : Instant) : Except DomainError Transaction :=
  if createdAt.isAfter now then
    .error (.invalidValue "Transaction created at cannot be in the future")
  else .ok ⟨id, kind, amount, counterparty, createdAt⟩

def sameIdentity (a b : Transaction) : Bool :=
  a.id == b.id

end Transaction

end Cqrs.Bank
