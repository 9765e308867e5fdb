/-
# Proofs.Bank.Ledger -- the history of an account, its balance and its events

Transitions are attempted on an account one after another, with any money and any other
accounts, and an attempt that fails leaves the account as it is (`Account.afterAll`).  Which of
them succeed is decided by the currency and by exact sums alone (`Attempt.apply_ok_iff`,
`entered`).  Those that do leave one transaction each, and with it

* the balance moved by the transaction's amount,
* one event that tells of the transaction (`Transaction.ToldBy`), whose change names this
  account and the counterparty on the sides that the direction of a transfer gives them
  (`Transaction.change?`).

`Account.Extends` is what one attempt does (`Account.after_extends`) and what any row of them
does (`Account.afterAll_extends`).
-/
import Cqrs.Proofs.Bank.Posting
import Mathlib.Algebra.Ring.Int.Defs
import Mathlib.Data.List.Forall2

namespace Cqrs.Bank

set_option autoImplicit false

/-! ## Attempts -/

/-- The ways to an account without events. -/
inductive Opening where
  | create (fresh : AccountId) (id : Option AccountId) (balance : Option Balance)
  | build (id : AccountId) (balance : Balance) (transactions : List Transaction)

def Opening.account : Opening → Account
  | .create fresh id balance => .create fresh id balance
  | .build id balance transactions => .build id balance transactions

/-- A transition, with the other account of a transfer. -/
inductive Movement where
  | deposit
  | withdraw
  | transferOut (target : AccountId)
  | transferIn (source : AccountId)
deriving DecidableEq

namespace Movement

def kind : Movement → TransactionType
  | .deposit => .deposit
  | .withdraw => .withdrawal
  | .transferOut _ => .transferOut
  | .transferIn _ => .transferIn

def counterparty : Movement → Option AccountId
  | .deposit | .withdraw => none
  | .transferOut other | .transferIn other => some other

def move : Movement → Balance → Money → Except DomainError Balance
  | .deposit | .transferIn _ => Balance.credit
  | .withdraw | .transferOut _ => Balance.debit

def change (movement : Movement) (owner : AccountId) (money : Money)
    (transaction : TransactionId) : BalanceChange :=
  match movement with
  | .deposit => .deposited owner money transaction
  | .withdraw => .withdrawn owner money transaction
  | .transferOut target => .transferredOut owner target money transaction
  | .transferIn source => .transferredIn source owner money transaction

end Movement

/-- A transition that is attempted with some money. -/
structure Attempt where
  movement : Movement
  stamp : Stamp
  money : Money
deriving DecidableEq

namespace Attempt

def apply (attempt : Attempt) (account : Account) : Except DomainError Account :=
  match attempt.movement with
  | .deposit => account.deposit attempt.stamp attempt.money
  | .withdraw => account.withdraw attempt.stamp attempt.money
  | .transferOut target => account.transferOut attempt.stamp attempt.money target
  | .transferIn source => account.transferIn attempt.stamp attempt.money source

def transaction (attempt : Attempt) : Transaction where
  id := attempt.stamp.transactionId
  kind := attempt.movement.kind
  amount := attempt.money
  counterparty := attempt.movement.counterparty
  createdAt := attempt.stamp.now

/-- The account as the attempt leaves it if the balance can be moved. -/
def moved (attempt : Attempt) (account : Account) (balance : Balance) : Account :=
  account.moved attempt.stamp balance attempt.movement.kind attempt.money
    attempt.movement.counterparty
    (attempt.movement.change account.id attempt.money attempt.stamp.transactionId)

end Attempt

namespace Account

/-- The account after an attempt, which is the same one where the attempt fails. -/
def after (account : Account) (attempt : Attempt) : Account :=
  match attempt.apply account with
  | .ok account => account
  | .error _ => account

def afterAll (account : Account) (attempts : List Attempt) : Account :=
  attempts.foldl after account

end Account

/-! ## What is entered -/

/-- The transaction can be entered where an account stands at some sum in a currency: it is in
that currency, and the new sum is one that a balance can hold. -/
def Transaction.Fits (currency : Currency) (sum : Int) (transaction : Transaction) : Prop :=
  transaction.amount.currency = currency ∧ 0 ≤ sum + transaction.signed ∧
    sum + transaction.signed ≤ Int64.maxValue.toInt

instance (currency : Currency) (sum : Int) (transaction : Transaction) :
    Decidable (transaction.Fits currency sum) := by
  unfold Transaction.Fits
  infer_instance

/-- The transactions that are entered one after another, from a sum in a currency on. -/
def entered (currency : Currency) : Int → List Transaction → List Transaction
  | _, [] => []
  | sum, transaction :: rest =>
      if transaction.Fits currency sum then
        transaction :: entered currency (sum + transaction.signed) rest
      else entered currency sum rest

/-- The type of event of a way in which a balance moves. -/
def TransactionType.eventType : TransactionType → String
  | .deposit => "bank_account.money_deposited"
  | .withdrawal => "bank_account.money_withdrawn"
  | .transferOut => "bank_account.money_transferred_out"
  | .transferIn => "bank_account.money_transferred_in"

/-- The way runs between two accounts. -/
def TransactionType.isTransfer : TransactionType → Bool
  | .deposit | .withdrawal => false
  | .transferOut | .transferIn => true

/-- The change of its account that a transaction stands for.  A transfer out runs from the
account to the counterparty, and a transfer in the other way round. -/
def Transaction.change? (owner : AccountId) (transaction : Transaction) : Option BalanceChange :=
  match transaction.kind, transaction.counterparty with
  | .deposit, none => some (.deposited owner transaction.amount transaction.id)
  | .withdrawal, none => some (.withdrawn owner transaction.amount transaction.id)
  | .transferOut, some target =>
      some (.transferredOut owner target transaction.amount transaction.id)
  | .transferIn, some source =>
      some (.transferredIn source owner transaction.amount transaction.id)
  | _, _ => none

/-- The event tells of a transaction of an account, and of it alone. -/
structure Transaction.ToldBy (owner : AccountId) (transaction : Transaction)
    (event : AccountEvent) : Prop where
  aggregateId : event.metadata.aggregateId = owner.text
  aggregateType : event.metadata.aggregateType = "bank_account"
  eventType : DomainEvent.eventType event = transaction.kind.eventType
  transactionId : event.change.transactionId = transaction.id
  amount : event.change.amount = transaction.amount
  change : transaction.change? owner = some event.change

/-! ## One attempt -/

namespace Movement

/-- A balance moves by the signed amount of the transaction, and keeps its currency. -/
theorem move_ok {attempt : Attempt} {balance after : Balance}
    (moved : attempt.movement.move balance attempt.money = .ok after) :
    after.amount.toInt = balance.amount.toInt + attempt.transaction.signed ∧
      after.currency = balance.currency := by
  obtain ⟨movement, stamp, money⟩ := attempt
  cases movement with
  | deposit | transferIn => exact Balance.credit_ok moved
  | withdraw | transferOut => exact Balance.debit_ok moved

/-- A balance can be moved exactly where the new sum is one that a balance can hold. -/
theorem move_ok_iff (attempt : Attempt) (balance : Balance) :
    (∃ after, attempt.movement.move balance attempt.money = .ok after) ↔
      0 ≤ balance.amount.toInt + attempt.transaction.signed ∧
        balance.amount.toInt + attempt.transaction.signed ≤ Int64.maxValue.toInt := by
  obtain ⟨movement, stamp, money⟩ := attempt
  have bounds := balance.bounds
  have positive := money.amount_pos
  cases movement with
  | deposit | transferIn =>
      refine Balance.credit_ok_iff.trans ?_
      simp only [Attempt.transaction, kind, Transaction.signed]
      omega
  | withdraw | transferOut =>
      refine Balance.debit_ok_iff.trans ?_
      simp only [Attempt.transaction, kind, Transaction.signed]
      omega

end Movement

namespace Attempt

/-- The four transitions differ in nothing but what the movement says. -/
theorem apply_eq (attempt : Attempt) (account : Account) :
    attempt.apply account = (do
      account.checkCurrency attempt.money
      let balance ← attempt.movement.move account.balance attempt.money
      return attempt.moved account balance) := by
  obtain ⟨movement, stamp, money⟩ := attempt
  cases movement <;> rfl

theorem apply_ok {attempt : Attempt} {account after : Account}
    (done : attempt.apply account = .ok after) :
    account.balance.currency = attempt.money.currency ∧ ∃ balance,
      attempt.movement.move account.balance attempt.money = .ok balance ∧
        after = attempt.moved account balance := by
  rw [apply_eq] at done
  exact Account.transition_ok done

/-- An attempt succeeds exactly where its transaction can be entered. -/
theorem apply_ok_iff (attempt : Attempt) (account : Account) :
    (∃ after, attempt.apply account = .ok after) ↔
      attempt.transaction.Fits account.balance.currency account.balance.amount.toInt := by
  constructor
  · rintro ⟨after, done⟩
    obtain ⟨inCurrency, balance, moved, _⟩ := apply_ok done
    exact ⟨inCurrency.symm, (Movement.move_ok_iff attempt account.balance).mp ⟨balance, moved⟩⟩
  · rintro ⟨inCurrency, fits⟩
    obtain ⟨balance, moved⟩ := (Movement.move_ok_iff attempt account.balance).mpr fits
    refine ⟨attempt.moved account balance, ?_⟩
    have checked : account.checkCurrency attempt.money = .ok () := if_pos inCurrency.symm
    rw [apply_eq, checked, moved]
    rfl

/-- The event that an attempt records tells of the transaction that it leaves. -/
theorem toldBy (attempt : Attempt) (owner : AccountId) :
    attempt.transaction.ToldBy owner (.record attempt.stamp.eventId attempt.stamp.now owner
      (attempt.movement.change owner attempt.money attempt.stamp.transactionId)) := by
  obtain ⟨movement, stamp, money⟩ := attempt
  cases movement <;> exact ⟨rfl, rfl, rfl, rfl, rfl, rfl⟩

end Attempt

namespace Account

/-- An account that others came of by entering transactions: the balance moved by their amounts,
and one event was recorded for each, in order. -/
structure Extends (added : List Transaction) (before after : Account) : Prop where
  id : after.id = before.id
  currency : after.balance.currency = before.balance.currency
  amount : after.balance.amount.toInt =
    before.balance.amount.toInt + (added.map Transaction.signed).sum
  transactions : after.transactions = before.transactions ++ added
  inCurrency : ∀ transaction ∈ added, transaction.amount.currency = before.balance.currency
  events : ∃ recorded, after.events.events = before.events.events ++ recorded ∧
    List.Forall₂ (Transaction.ToldBy before.id) added recorded

theorem Extends.refl (account : Account) : Extends [] account account where
  id := rfl
  currency := rfl
  amount := (Int.add_zero _).symm
  transactions := (List.append_nil _).symm
  inCurrency _ member := (List.not_mem_nil member).elim
  events := ⟨[], (List.append_nil _).symm, .nil⟩

theorem Extends.trans {first second : List Transaction} {a b c : Account}
    (one : Extends first a b) (two : Extends second b c) : Extends (first ++ second) a c where
  id := two.id.trans one.id
  currency := two.currency.trans one.currency
  amount := by
    rw [two.amount, one.amount, List.map_append, List.sum_append, Int.add_assoc]
  transactions := by rw [two.transactions, one.transactions, List.append_assoc]
  inCurrency transaction member := by
    rcases List.mem_append.mp member with here | there
    · exact one.inCurrency transaction here
    · exact (two.inCurrency transaction there).trans one.currency
  events := by
    obtain ⟨recorded, before, told⟩ := one.events
    obtain ⟨more, after, others⟩ := two.events
    rw [one.id] at others
    refine ⟨recorded ++ more, ?_, List.rel_append told others⟩
    rw [after, before, List.append_assoc]

/-- An account whose balance was moved extends it by one transaction. -/
theorem moved_extends {attempt : Attempt} {account : Account} {balance : Balance}
    (inCurrency : account.balance.currency = attempt.money.currency)
    (moved : attempt.movement.move account.balance attempt.money = .ok balance) :
    Extends [attempt.transaction] account (attempt.moved account balance) where
  id := rfl
  currency := (Movement.move_ok moved).2
  amount := by
    rw [List.map_singleton, List.sum_singleton]
    exact (Movement.move_ok moved).1
  transactions := rfl
  inCurrency transaction member := by
    rw [List.mem_singleton.mp member]
    exact inCurrency.symm
  events := ⟨_, rfl, .cons (attempt.toldBy account.id) .nil⟩

/-- An attempt enters its transaction if that can be entered, and changes nothing otherwise. -/
theorem after_extends (account : Account) (attempt : Attempt) :
    Extends (entered account.balance.currency account.balance.amount.toInt [attempt.transaction])
      account (account.after attempt) := by
  unfold after entered
  cases done : attempt.apply account with
  | ok after =>
      obtain ⟨inCurrency, balance, moved, rfl⟩ := Attempt.apply_ok done
      rw [if_pos ((attempt.apply_ok_iff account).mp ⟨_, done⟩)]
      exact moved_extends inCurrency moved
  | error error =>
      rw [if_neg]
      · exact .refl account
      · intro fits
        obtain ⟨after, succeeded⟩ := (attempt.apply_ok_iff account).mpr fits
        rw [done] at succeeded
        cases succeeded

end Account

/-! ## Attempts in a row -/

/-- What is entered of two rows: of the second one, what fits after the first. -/
theorem entered_append (currency : Currency) (sum : Int) (first second : List Transaction) :
    entered currency sum (first ++ second) = entered currency sum first ++
      entered currency (sum + ((entered currency sum first).map Transaction.signed).sum)
        second := by
  induction first generalizing sum with
  | nil => simp [entered]
  | cons transaction rest ih =>
      by_cases fits : transaction.Fits currency sum
      · simp only [List.cons_append, entered, if_pos fits, ih, List.map_cons, List.sum_cons,
          Int.add_assoc]
      · simp only [List.cons_append, entered, if_neg fits, ih]

/-- Any row of attempts enters those of their transactions that fit when their turn comes. -/
theorem Account.afterAll_extends (account : Account) (attempts : List Attempt) :
    Extends (entered account.balance.currency account.balance.amount.toInt
      (attempts.map Attempt.transaction)) account (account.afterAll attempts) := by
  induction attempts generalizing account with
  | nil => exact .refl account
  | cons attempt rest ih =>
      have first := account.after_extends attempt
      have later := ih (account.after attempt)
      rw [first.currency, first.amount] at later
      rw [List.map_cons, ← List.singleton_append, entered_append]
      exact first.trans later

theorem Opening.events_empty (opening : Opening) : opening.account.events.events = [] := by
  cases opening <;> rfl

/-- A transaction that an event tells of has a counterparty exactly if it is a transfer. -/
theorem Transaction.ToldBy.counterparty {owner : AccountId} {transaction : Transaction}
    {event : AccountEvent} (told : transaction.ToldBy owner event) :
    transaction.counterparty.isSome = transaction.kind.isTransfer := by
  obtain ⟨id, kind, amount, counterparty, createdAt⟩ := transaction
  have change := told.change
  cases kind <;> cases counterparty <;> first | rfl | cases change

theorem Account.Extends.counterparty {added : List Transaction} {before after : Account}
    (grown : Extends added before after) :
    ∀ transaction ∈ added, transaction.counterparty.isSome = transaction.kind.isTransfer := by
  obtain ⟨recorded, -, told⟩ := grown.events
  clear grown
  induction told with
  | nil => exact fun _ member => (List.not_mem_nil member).elim
  | cons first _ ih => exact List.forall_mem_cons.mpr ⟨first.counterparty, ih⟩

/-- **History, balance and events stay aligned.**  An account is opened, and then transitions are
attempted on it in any order, some of which fail.  Exactly the transactions that fit when their
turn comes are added to its history.  Its balance is the one at the beginning and their exact
sum, and in bounds; all of them are positive amounts of its currency and name a counterparty
exactly if they are transfers; and its events tell of them one by one, in the same order. -/
theorem history_matches_events (opening : Opening) (attempts : List Attempt) :
    let start := opening.account
    let account := start.afterAll attempts
    ∃ added, added = entered start.balance.currency start.balance.amount.toInt
        (attempts.map Attempt.transaction) ∧
      account.id = start.id ∧ account.balance.currency = start.balance.currency ∧
      account.transactions = start.transactions ++ added ∧
      account.balance.amount.toInt =
        start.balance.amount.toInt + (added.map Transaction.signed).sum ∧
      0 ≤ account.balance.amount.toInt ∧
      account.balance.amount.toInt ≤ Int64.maxValue.toInt ∧
      (∀ transaction ∈ added, 0 < transaction.amount.amount.toInt ∧
        transaction.amount.currency = start.balance.currency ∧
        transaction.counterparty.isSome = transaction.kind.isTransfer) ∧
      List.Forall₂ (Transaction.ToldBy start.id) added account.events.events := by
  intro start account
  have grown := start.afterAll_extends attempts
  obtain ⟨recorded, events, told⟩ := grown.events
  rw [opening.events_empty, List.nil_append] at events
  rw [← events] at told
  refine ⟨_, rfl, grown.id, grown.currency, grown.transactions, grown.amount,
    account.balance.bounds.1, account.balance.bounds.2, fun transaction member => ?_, told⟩
  exact ⟨transaction.amount.amount_pos, grown.inCurrency transaction member,
    grown.counterparty transaction member⟩

end Cqrs.Bank
