/-
# Bank.Money -- currencies, amounts and balances

Amounts are whole numbers of the smallest unit of a currency, in 64 bits.  An amount of
money is positive and a balance is not negative, and both carry the proof.
`Balance.credit` refuses a sum past the greatest amount and `Balance.debit` one that
the balance does not cover.
-/
import Cqrs.Json.Reading

namespace Cqrs.Bank

set_option autoImplicit false

/-- The currencies that accounts are kept in. -/
inductive Currency where
  | usd
  | eur
  | gbp
deriving DecidableEq, Repr, Inhabited

namespace Currency

def code : Currency → String
  | .usd => "USD"
  | .eur => "EUR"
  | .gbp => "GBP"

instance : Vocabulary Currency where
  values := [.usd, .eur, .gbp]
  name := code

def parse (text : String) : Except DomainError Currency :=
  match Vocabulary.read? text with
  | some currency => .ok currency
  | none => .error (.invalidValue ("Unsupported currency \"" ++ text ++ "\""))

end Currency

/-- A positive amount in a currency. -/
structure Money where
  amount : Int64
  currency : Currency
  positive : 0 < amount
deriving DecidableEq

namespace Money

def make (amount : Int64) (currency : Currency) : Except DomainError Money :=
  if positive : 0 < amount then .ok ⟨amount, currency, positive⟩
  else .error (.invalidValue "Amount must be greater than 0")

/-- Reads an amount of money: the currency first, then the amount. -/
def parse (amount : Int64) (currency : String) : Except DomainError Money :=
  match Currency.parse currency with
  | .ok currency => make amount currency
  | .error error => .error error

def toJson (money : Money) : Json :=
  .ofEntries [("amount", .int money.amount.toInt), ("currency", Vocabulary.toJson money.currency)]

end Money

/-- What an account holds: an amount that is not negative, in a currency. -/
structure Balance where
  amount : Int64
  currency : Currency
  nonnegative : 0 ≤ amount
deriving DecidableEq

namespace Balance

def make (amount : Int64) (currency : Currency) : Except DomainError Balance :=
  if nonnegative : 0 ≤ amount then .ok ⟨amount, currency, nonnegative⟩
  else .error (.invalidValue "Balance cannot be negative")

/-- Reads a balance: the currency first, then the amount. -/
def parse (amount : Int64) (currency : String) : Except DomainError Balance :=
  match Currency.parse currency with
  | .ok currency => make amount currency
  | .error error => .error error

def zero (currency : Currency) : Balance :=
  ⟨0, currency, by decide⟩

instance : Inhabited Balance := ⟨zero default⟩

/-- The sum of two amounts, if it is an amount. -/
def sum? (a b : Int64) : Option Int64 :=
  let sum := a.toInt + b.toInt
  if Int64.minValue.toInt ≤ sum ∧ sum ≤ Int64.maxValue.toInt then some (a + b) else none

/-- Adds money of the balance's currency. -/
def credit (balance : Balance) (money : Money) : Except DomainError Balance :=
  match sum? balance.amount money.amount with
  | some amount => make amount balance.currency
  | none => .error (.invalidValue "Balance overflow")

def debit (balance : Balance) (money : Money) : Except DomainError Balance :=
  if balance.amount < money.amount then
    .error (.insufficientFunds balance.amount money.amount)
  else make (balance.amount - money.amount) balance.currency

def toJson (balance : Balance) : Json :=
  .ofEntries [("amount", .int balance.amount.toInt),
    ("currency", Vocabulary.toJson balance.currency)]

end Balance

end Cqrs.Bank
