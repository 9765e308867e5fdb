/-
# Proofs.Bank.Execution -- the full effect of an order

The effect of an order is stated on the accounts and what they keep, without reference to how it
comes about (`Executed`): for each line of the order there is a posting of the account that the
line names, which moved the balance by the amount of the line and left one more transaction, and
all of these accounts are saved.  What the transactions are stamped with comes next in the state
(`Posting.Stamped`).  This determines the accounts (`CarriedOut.unique`).

* `Attempt.posting` -- an attempt that succeeds is a posting, with an event that tells all of it;
* `Order.decide_executed` -- a decision that is taken executes the lines of its order.
-/
import Cqrs.Proofs.Bank.Handling
import Cqrs.Proofs.Bank.Ledger

namespace Cqrs.Bank

set_option autoImplicit false

/-! ## What an order executes -/

/-- The texts of the other accounts that the transactions of an order name, line by line. -/
def Order.counterparties : Order → List (Option String)
  | .deposit _ | .withdraw _ => [none]
  | .transfer order => [some order.target, some order.source]

/-- The postings are one for each line of an order.  They are of accounts as they are stored, which
are all saved, and the event of each tells all of its transaction. -/
structure Executed (order : Order) (before after : Store Account) (postings : List Posting) :
    Prop where
  books : Books postings before after
  lines : postings.map Posting.line = order.lines
  counterparties : (postings.map fun posting =>
    posting.transaction.counterparty.map Identifier.text) = order.counterparties
  told : ∀ posting ∈ postings, posting.transaction.ToldBy posting.before.id posting.event

namespace Posting

/-- What the accounts of postings have recorded: what they had before, and the events of the
postings. -/
def recorded (postings : List Posting) : List AccountEvent :=
  postings.flatMap fun posting => posting.before.events.events ++ [posting.event]

theorem recorded_eq (postings : List Posting) :
    recorded postings = postings.flatMap (·.after.events.events) := by
  unfold recorded
  congr 1
  funext posting
  exact posting.moves.events.symm

/-- The transactions have the identifiers and the moments of the stamps that come next. -/
def Stamped (state : BankState) (postings : List Posting) : Prop :=
  (postings.map fun posting => (posting.transaction.id, posting.transaction.createdAt)) =
    (List.range postings.length).map fun unsaved =>
      ((state.stampAfter unsaved).transactionId, (state.stampAfter unsaved).now)

end Posting

/-- The accounts with the full effect of an order. -/
def CarriedOut (state : BankState) (order : Order) (accounts : Store Account) : Prop :=
  ∃ postings, Executed order state.accounts accounts postings ∧ Posting.Stamped state postings

/-! ## One effect -/

theorem Money.unique {money other : Money} (amount : money.amount = other.amount)
    (code : money.currency.code = other.currency.code) : money = other := by
  have currencies := Currency.code_injective code
  cases money
  cases other
  cases amount
  cases currencies
  rfl

namespace Posting

variable {one two : Posting}

/-- The account and the transaction of a posting tell how it leaves the account. -/
theorem stored_unique (before : one.before = two.before)
    (transaction : one.transaction = two.transaction) :
    one.after.withoutEvents = two.after.withoutEvents := by
  have balance : one.after.balance = two.after.balance := by
    have amount : one.after.balance.amount.toInt = two.after.balance.amount.toInt := by
      rw [one.moves.amount, two.moves.amount, before, transaction]
    have currency : one.after.balance.currency = two.after.balance.currency := by
      rw [one.moves.currency, two.moves.currency, before]
    cases left : one.after.balance
    cases right : two.after.balance
    simp only [left, right] at amount currency
    cases Int64.toInt_inj.mp amount
    cases currency
    rfl
  have id : one.after.id = two.after.id := by rw [one.moves.id, two.moves.id, before]
  have transactions : one.after.transactions = two.after.transactions := by
    rw [one.moves.transactions, two.moves.transactions, before, transaction]
  simp only [Account.withoutEvents, id, balance, transactions]

/-- The transaction of a posting is told by its line, by the other account and by its stamp. -/
theorem transaction_unique (line : one.line = two.line)
    (counterparty : one.transaction.counterparty.map Identifier.text =
      two.transaction.counterparty.map Identifier.text)
    (stamp : (one.transaction.id, one.transaction.createdAt) =
      (two.transaction.id, two.transaction.createdAt)) : one.transaction = two.transaction := by
  have kind : one.transaction.kind = two.transaction.kind := congrArg Line.kind line
  have amount : one.transaction.amount = two.transaction.amount :=
    Money.unique (congrArg Line.amount line) (congrArg Line.currency line)
  have other : one.transaction.counterparty = two.transaction.counterparty :=
    Option.map_injective (fun _ _ same => id_of_text same rfl) counterparty
  obtain ⟨id, createdAt⟩ := Prod.mk.inj stamp
  cases left : one.transaction
  cases right : two.transaction
  simp only [left, right] at kind amount other id createdAt
  simp only [kind, amount, other, id, createdAt]

/-- Postings of accounts of one store, with the same lines, other accounts and stamps, leave the
same store. -/
theorem saveAll_unique {origin : Store Account} {postings others : List Posting}
    (loaded : ∀ posting ∈ postings, origin.find? posting.before.id = some posting.before)
    (found : ∀ posting ∈ others, origin.find? posting.before.id = some posting.before)
    (lines : postings.map line = others.map line)
    (counterparties : (postings.map fun posting =>
      posting.transaction.counterparty.map Identifier.text) =
        others.map fun posting => posting.transaction.counterparty.map Identifier.text)
    (stamps : (postings.map fun posting =>
      (posting.transaction.id, posting.transaction.createdAt)) =
        others.map fun posting => (posting.transaction.id, posting.transaction.createdAt))
    (store : Store Account) : saveAll postings store = saveAll others store := by
  induction postings generalizing others store with
  | nil =>
      rw [List.map_nil, eq_comm, List.map_eq_nil_iff] at lines
      rw [lines]
  | cons posting rest ih =>
      obtain _ | ⟨other, more⟩ := others
      · cases lines
      rw [List.forall_mem_cons] at loaded found
      obtain ⟨line, lines⟩ := List.cons.inj lines
      obtain ⟨counterparty, counterparties⟩ := List.cons.inj counterparties
      obtain ⟨stamp, stamps⟩ := List.cons.inj stamps
      have own : posting.before.id = other.before.id :=
        id_of_text (congrArg Line.account line) rfl
      have before : posting.before = other.before :=
        Option.some.inj (loaded.1.symm.trans (own ▸ found.1))
      have stored := stored_unique before (transaction_unique line counterparty stamp)
      have saved : store.save posting.after = store.save other.after :=
        congrArg (fun account => Store.mk (Store.place account store.items)) stored
      show saveAll rest (store.save posting.after) = saveAll more (store.save other.after)
      rw [saved]
      exact ih loaded.2 found.2 lines counterparties stamps _

end Posting

/-- **An order has no more than one full effect.** -/
theorem CarriedOut.unique {state : BankState} {order : Order} {accounts others : Store Account}
    (first : CarriedOut state order accounts) (second : CarriedOut state order others) :
    accounts = others := by
  obtain ⟨postings, executed, stamped⟩ := first
  obtain ⟨copies, repeated, restamped⟩ := second
  have lines := executed.lines.trans repeated.lines.symm
  have size : postings.length = copies.length := by
    simpa only [List.length_map] using congrArg List.length lines
  rw [executed.books.saved, repeated.books.saved]
  refine Posting.saveAll_unique executed.books.loaded repeated.books.loaded lines
    (executed.counterparties.trans repeated.counterparties.symm) ?_ state.accounts
  exact stamped.trans (size ▸ restamped.symm)

/-! ## Decisions that are taken -/

/-- An attempt that succeeds is a posting of its transaction, and the event tells all of it. -/
theorem Attempt.posting (attempt : Attempt) {account after : Account}
    (done : attempt.apply account = .ok after) :
    ∃ posting : Posting, posting.before = account ∧ posting.after = after ∧
      posting.transaction = attempt.transaction ∧
      posting.transaction.ToldBy posting.before.id posting.event := by
  obtain ⟨inCurrency, balance, moved, rfl⟩ := apply_ok done
  obtain ⟨amount, currency⟩ := Movement.move_ok moved
  have told := attempt.toldBy account.id
  have kind : (attempt.movement.change account.id attempt.money
      attempt.stamp.transactionId).kind = attempt.movement.kind := by
    cases attempt.movement <;> rfl
  exact ⟨⟨attempt.transaction, _, account, _, Account.moved_moves inCurrency currency amount
    ⟨told.transactionId, told.amount, kind⟩⟩, rfl, rfl, rfl, told⟩

theorem checkApart_ok {source target : AccountId} {checked : Unit}
    (passed : checkApart source target = .ok checked) : source ≠ target := by
  unfold checkApart at passed
  split at passed
  · cases passed
  · assumption

theorem decideMoney_executed (movement : Movement) {order : MoneyOrder} {whole : Order}
    {state next : BankState} {events : List AccountEvent}
    (lines : whole.lines = [⟨order.account, movement.kind, order.amount, order.currency⟩])
    (counterparties : whole.counterparties = [movement.counterparty.map Identifier.text])
    (decided : BankState.decideMoney
      (fun account stamp money => Attempt.apply ⟨movement, stamp, money⟩ account) order state =
        .ok (events, next)) :
    ∃ postings, Executed whole state.accounts next.accounts postings ∧
      Posting.Stamped state postings ∧ events = Posting.recorded postings := by
  obtain ⟨id, named, decided⟩ := bind_eq_ok decided
  obtain ⟨money, paid, decided⟩ := bind_eq_ok decided
  obtain ⟨account, loaded, decided⟩ := bind_eq_ok decided
  obtain ⟨after, moved, decided⟩ := bind_eq_ok decided
  cases decided
  have text := Identifier.parse_ok_iff.mp named
  obtain ⟨amount, currency⟩ := Money.parse_ok paid
  obtain ⟨held, identity⟩ := BankState.obtain_ok loaded
  obtain ⟨posting, rfl, rfl, entered, told⟩ := Attempt.posting _ moved
  refine ⟨[posting], ⟨⟨?_, ?_, rfl⟩, ?_, ?_, ?_⟩, ?_, ?_⟩
  · rw [List.forall_mem_singleton, identity]
    exact held
  · simp
  · simp only [List.map_cons, List.map_nil, lines, Posting.line, entered, Attempt.transaction,
      identity, text, amount, currency]
  · simp only [List.map_cons, List.map_nil, counterparties, entered, Attempt.transaction]
  · rw [List.forall_mem_singleton]
    exact told
  · simp only [Posting.Stamped, List.map_cons, List.map_nil, entered]
    rfl
  · simp [Posting.recorded_eq]

theorem decideTransfer_executed {order : TransferOrder} {state next : BankState}
    {events : List AccountEvent}
    (decided : BankState.decideTransfer order state = .ok (events, next)) :
    ∃ postings, Executed (.transfer order) state.accounts next.accounts postings ∧
      Posting.Stamped state postings ∧ events = Posting.recorded postings := by
  obtain ⟨sourceId, sourceNamed, decided⟩ := bind_eq_ok decided
  obtain ⟨targetId, targetNamed, decided⟩ := bind_eq_ok decided
  obtain ⟨_, checked, decided⟩ := bind_eq_ok decided
  obtain ⟨money, paid, decided⟩ := bind_eq_ok decided
  obtain ⟨source, sourceLoaded, decided⟩ := bind_eq_ok decided
  obtain ⟨sourceAfter, sent, decided⟩ := bind_eq_ok decided
  obtain ⟨target, targetLoaded, decided⟩ := bind_eq_ok decided
  obtain ⟨targetAfter, received, decided⟩ := bind_eq_ok decided
  cases decided
  have apart := checkApart_ok checked
  have sourceText := Identifier.parse_ok_iff.mp sourceNamed
  have targetText := Identifier.parse_ok_iff.mp targetNamed
  obtain ⟨amount, currency⟩ := Money.parse_ok paid
  obtain ⟨sourceHeld, sourceIdentity⟩ := BankState.obtain_ok sourceLoaded
  obtain ⟨targetHeld, targetIdentity⟩ := BankState.obtain_ok targetLoaded
  obtain ⟨out, rfl, rfl, left, leftTold⟩ := Attempt.posting
    ⟨.transferOut targetId, state.stampAfter 0, money⟩ sent
  obtain ⟨into, rfl, rfl, came, cameTold⟩ := Attempt.posting
    ⟨.transferIn sourceId, state.stampAfter 1, money⟩ received
  refine ⟨[out, into], ⟨⟨?_, ?_, rfl⟩, ?_, ?_, ?_⟩, ?_, ?_⟩
  · rw [List.forall_mem_cons, List.forall_mem_singleton, sourceIdentity, targetIdentity]
    exact ⟨sourceHeld, targetHeld⟩
  · simp [sourceIdentity, targetIdentity, apart]
  · simp only [List.map_cons, List.map_nil, Posting.line, Order.lines, left, came,
      Attempt.transaction, Movement.kind, sourceIdentity, targetIdentity, sourceText, targetText,
      amount, currency]
  · simp only [List.map_cons, List.map_nil, Order.counterparties, left, came, Attempt.transaction,
      Movement.counterparty, Option.map_some, sourceText, targetText]
  · rw [List.forall_mem_cons, List.forall_mem_singleton]
    exact ⟨leftTold, cameTold⟩
  · simp only [Posting.Stamped, List.map_cons, List.map_nil, left, came]
    rfl
  · simp [Posting.recorded_eq]

/-- **A decision that is taken executes the order.** -/
theorem Order.decide_executed {order : Order} {state next : BankState}
    {events : List AccountEvent} (decided : order.decide state = .ok (events, next)) :
    ∃ postings, Executed order state.accounts next.accounts postings ∧
      Posting.Stamped state postings ∧ events = Posting.recorded postings := by
  cases order with
  | deposit order => exact decideMoney_executed .deposit rfl rfl decided
  | withdraw order => exact decideMoney_executed .withdraw rfl rfl decided
  | transfer order => exact decideTransfer_executed decided

theorem Order.decide_carriedOut {order : Order} {state next : BankState}
    {events : List AccountEvent} (decided : order.decide state = .ok (events, next)) :
    CarriedOut state order next.accounts := by
  obtain ⟨postings, executed, stamped, -⟩ := Order.decide_executed decided
  exact ⟨postings, executed, stamped⟩

end Cqrs.Bank
