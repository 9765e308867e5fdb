/-
# Proofs.Bank.Posting -- what an order that is not refused does to the accounts

A transition leaves an account with one more transaction, one more event that tells of that
transaction, and a balance moved by exactly its amount (`Account.Moves`).  A `Posting` is one
such movement.  What an order asks for is written down in lines: one for a deposit or a withdrawal,
and two for a transfer, first the side of its source and then that of its target (`Order.lines`).
Postings of stored accounts, each of another one, which are all saved, are the `Books` of it.

* `Account.transition_ok`, `Account.moved_moves` -- a transition that succeeds is a movement;
* `Books.uncons` -- what is booked last is booked after the first posting was saved.
-/
import Cqrs.Bank.Assembly
import Cqrs.Proofs.Bank.Money
import Cqrs.Proofs.Identifier
import Cqrs.Proofs.Store

namespace Cqrs.Bank

set_option autoImplicit false

/-! ## Movements -/

/-- What came of a step and the rest after it came of the step first. -/
theorem bind_eq_ok {α β : Type} {step : Except DomainError α}
    {rest : α → Except DomainError β} {result : β} (done : step >>= rest = .ok result) :
    ∃ value, step = .ok value ∧ rest value = .ok result := by
  cases step with
  | error error => cases done
  | ok value => exact ⟨value, rfl, done⟩

namespace Transaction

/-- The amount, less than nothing where it left the account. -/
def signed (transaction : Transaction) : Int :=
  match transaction.kind with
  | .deposit | .transferIn => transaction.amount.amount.toInt
  | .withdrawal | .transferOut => -transaction.amount.amount.toInt

end Transaction

namespace BalanceChange

def kind : BalanceChange → TransactionType
  | .deposited _ _ _ => .deposit
  | .withdrawn _ _ _ => .withdrawal
  | .transferredOut _ _ _ _ => .transferOut
  | .transferredIn _ _ _ _ => .transferIn

end BalanceChange

/-- The event tells of a transaction of an account. -/
structure AccountEvent.Announces (account : AccountId) (transaction : Transaction)
    (event : AccountEvent) : Prop where
  owner : event.metadata.aggregateId = account.text
  transactionId : event.change.transactionId = transaction.id
  amount : event.change.amount = transaction.amount
  kind : event.change.kind = transaction.kind

/-- How a transition leaves an account. -/
structure Account.Moves (transaction : Transaction) (event : AccountEvent)
    (before after : Account) : Prop where
  id : after.id = before.id
  currency : after.balance.currency = before.balance.currency
  inCurrency : before.balance.currency = transaction.amount.currency
  amount : after.balance.amount.toInt = before.balance.amount.toInt + transaction.signed
  transactions : after.transactions = before.transactions ++ [transaction]
  events : after.events.events = before.events.events ++ [event]
  announces : event.Announces before.id transaction

namespace Account

variable {account after : Account} {stamp : Stamp} {money : Money}

/-- What the transitions share: the currency is checked, then the balance is moved. -/
theorem transition_ok {move : Balance → Money → Except DomainError Balance}
    {kind : TransactionType} {counterparty : Option AccountId} {change : BalanceChange}
    (done : (do
      account.checkCurrency money
      let balance ← move account.balance money
      return account.moved stamp balance kind money counterparty change) = .ok after) :
    account.balance.currency = money.currency ∧ ∃ balance,
      move account.balance money = .ok balance ∧
        after = account.moved stamp balance kind money counterparty change := by
  obtain ⟨_, checked, done⟩ := bind_eq_ok done
  obtain ⟨balance, moved, done⟩ := bind_eq_ok done
  cases done
  refine ⟨?_, balance, moved, rfl⟩
  unfold checkCurrency at checked
  split at checked
  · assumption
  · cases checked

/-- An account moved by a credit or a debit has moved by the transaction's amount. -/
theorem moved_moves {balance : Balance} {kind : TransactionType}
    {counterparty : Option AccountId} {change : BalanceChange}
    (inCurrency : account.balance.currency = money.currency)
    (currency : balance.currency = account.balance.currency)
    (amount : balance.amount.toInt = account.balance.amount.toInt +
      Transaction.signed ⟨stamp.transactionId, kind, money, counterparty, stamp.now⟩)
    (tells : change.transactionId = stamp.transactionId ∧ change.amount = money ∧
      change.kind = kind) :
    account.Moves ⟨stamp.transactionId, kind, money, counterparty, stamp.now⟩
      (.record stamp.eventId stamp.now account.id change)
      (account.moved stamp balance kind money counterparty change) where
  id := rfl
  currency := currency
  inCurrency := inCurrency
  amount := amount
  transactions := rfl
  events := rfl
  announces := ⟨rfl, tells.1, tells.2.1, tells.2.2⟩

end Account

/-! ## Postings -/

theorem find?_save_own (store : Store Account) {account : Account} {id : AccountId}
    (own : account.id = id) : (store.save account).find? id = some account.withoutEvents :=
  (Store.find?_save store account id).trans (if_pos own)

theorem find?_save_apart (store : Store Account) {account : Account} {id : AccountId}
    (apart : account.id ≠ id) : (store.save account).find? id = store.find? id :=
  (Store.find?_save store account id).trans (if_neg apart)

/-- One account that an order moved, with the transaction and the event of it. -/
structure Posting where
  transaction : Transaction
  event : AccountEvent
  before : Account
  after : Account
  moves : before.Moves transaction event after

/-- What an order says of one movement: the account, the way, the amount and the currency. -/
structure Line where
  account : String
  kind : TransactionType
  amount : Int64
  currency : String
deriving DecidableEq

namespace Line

/-- What the line adds to the balances in a currency. -/
def net (currency : Currency) (line : Line) : Int :=
  if line.currency = currency.code then
    match line.kind with
    | .deposit | .transferIn => line.amount.toInt
    | .withdrawal | .transferOut => -line.amount.toInt
  else 0

end Line

namespace Posting

def line (posting : Posting) : Line where
  account := posting.before.id.text
  kind := posting.transaction.kind
  amount := posting.transaction.amount.amount
  currency := posting.transaction.amount.currency.code

/-- A store with the accounts of some postings saved, one after another. -/
def saveAll (postings : List Posting) (store : Store Account) : Store Account :=
  postings.foldl (fun store posting => store.save posting.after) store

end Posting

/-- The postings are of accounts as they are stored, each of another one, and are saved. -/
structure Books (postings : List Posting) (before after : Store Account) : Prop where
  loaded : ∀ posting ∈ postings, before.find? posting.before.id = some posting.before
  distinct : (postings.map (·.before.id)).Nodup
  saved : after = Posting.saveAll postings before

/-- What is booked last is booked after the first posting was saved. -/
theorem Books.uncons {posting : Posting} {rest : List Posting} {before after : Store Account}
    (books : Books (posting :: rest) before after) :
    before.find? posting.before.id = some posting.before ∧
      Books rest (before.save posting.after) after := by
  refine ⟨books.loaded posting (List.mem_cons_self ..), ?_, ?_, books.saved⟩
  · -- the other postings are of other accounts, which the save leaves as they were loaded
    intro other member
    have apart : posting.after.id ≠ other.before.id := by
      intro same
      have once : posting.before.id ∉ rest.map (·.before.id) :=
        (List.nodup_cons.mp books.distinct).1
      rw [← posting.moves.id, same] at once
      exact once (List.mem_map_of_mem member)
    rw [find?_save_apart _ apart]
    exact books.loaded other (List.mem_cons_of_mem _ member)
  · exact (List.nodup_cons.mp books.distinct).2

theorem Books.built {postings : List Posting} {before after : Store Account}
    (books : Books postings before after) (built : before.Built) : after.Built := by
  rw [books.saved]
  unfold Posting.saveAll
  clear books
  induction postings generalizing before with
  | nil => exact built
  | cons posting rest ih => exact ih (built.save posting.after)

/-- An order that the bank carries out. -/
inductive Order where
  | deposit (order : MoneyOrder)
  | withdraw (order : MoneyOrder)
  | transfer (order : TransferOrder)
deriving DecidableEq, Repr

namespace Order

def kind : Order → BankCommand
  | .deposit _ => .deposit
  | .withdraw _ => .withdraw
  | .transfer _ => .transfer

def payload : (order : Order) → order.kind.Payload
  | .deposit order => order
  | .withdraw order => order
  | .transfer order => order

def handle : Order → Context → Reaction application
  | .deposit order, context => handleDeposit context order
  | .withdraw order, context => handleWithdraw context order
  | .transfer order, context => handleTransfer context order

def lines : Order → List Line
  | .deposit order => [⟨order.account, .deposit, order.amount, order.currency⟩]
  | .withdraw order => [⟨order.account, .withdrawal, order.amount, order.currency⟩]
  | .transfer order =>
      [⟨order.source, .transferOut, order.amount, order.currency⟩,
        ⟨order.target, .transferIn, order.amount, order.currency⟩]

end Order

namespace BankState

theorem obtain_ok {state : BankState} {id : AccountId} {account : Account}
    (found : state.obtain id = .ok account) :
    state.accounts.find? id = some account ∧ account.id = id := by
  unfold obtain Store.obtain at found
  split at found
  · rename_i held
    cases found
    exact ⟨held, (Store.mem_of_find? held).2⟩
  · cases found

end BankState

/-! ## A small bank -/

def smallAccount (text : String) (amount : Int64) (checked : accountKind.check text = .ok ())
    (nonnegative : 0 ≤ amount) : Account :=
  .build ⟨text, checked⟩ ⟨amount, .usd, nonnegative⟩ []

def smallBank : BankState where
  accounts := (Store.empty.save (smallAccount "acc-a" 100 rfl (by decide))).save
    (smallAccount "acc-b" 50 rfl (by decide))
  supply := ⟨fun drawn => ⟨BitVec.ofNat 128 drawn⟩, fun _ => .epoch, 0⟩

def firstAccountId : AccountId := ⟨"acc-a", rfl⟩

def thirdAccount : Account := smallAccount "acc-c" 5 rfl (by decide)

end Cqrs.Bank
