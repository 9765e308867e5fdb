/-
# Proofs.Bank.Grounds -- on what grounds an order is refused

An order is checked against conditions in a fixed order (`Order.grounds`).  They are stated on the
texts and numbers of the order and on what is stored, without reference to how any of it is read:
a text is objected to by its grammar (`IdentifierKind.Objects`), a sum is too great as a whole
number.  Each ground is told with the error that it gives, and the first one that holds decides
(`First`).

A computation settles a row of grounds if it fails exactly with the error of the first that holds
(`Settles`).  One step after another settles one row of grounds after another (`Settles.bind`), so
each step is looked at once, and the decision on an order follows its steps
(`Order.decide_settles`).
-/
import Cqrs.Proofs.Bank.Ledger
import Cqrs.Proofs.Bank.ReadSide

namespace Cqrs.Bank

set_option autoImplicit false

/-- A condition on which an order fails, with the error that it then fails with. -/
abbrev Ground := AppError → Prop

namespace Ground

def busless (context : Context) : Ground := fun error =>
  context.events = none ∧ error = .missingEventBus

/-- The text is no identifier of an account. -/
def unfit (text : String) : Ground := fun error =>
  ∃ reason, accountKind.Objects text reason ∧ error = .domain (.invalidValue reason)

/-- The two accounts of a transfer are one. -/
def sameAccount (order : TransferOrder) : Ground := fun error =>
  order.source = order.target ∧
    error = .domain (.invalidState "cannot transfer to the same account")

/-- There is no currency with this code. -/
def unsupported (code : String) : Ground := fun error =>
  (∀ currency : Currency, currency.code ≠ code) ∧
    error = .domain (.invalidValue ("Unsupported currency \"" ++ code ++ "\""))

def notPositive (amount : Int64) : Ground := fun error =>
  amount.toInt ≤ 0 ∧ error = .domain (.invalidValue "Amount must be greater than 0")

/-- No account with this identifier is stored. -/
def missing (store : Store Account) (text : String) : Ground := fun error =>
  (∀ account ∈ store.items, account.id.text ≠ text) ∧
    error = .domain (.notFound "BankAccount" (some text))

/-- The account is kept in another currency. -/
def foreign (store : Store Account) (text code : String) : Ground := fun error =>
  ∃ account ∈ store.items, account.id.text = text ∧ account.balance.currency.code ≠ code ∧
    error = .domain (.currencyMismatch account.balance.currency.code code)

/-- The balance of the account is below the amount. -/
def short (store : Store Account) (text : String) (amount : Int64) : Ground := fun error =>
  ∃ account ∈ store.items, account.id.text = text ∧
    account.balance.amount.toInt < amount.toInt ∧
    error = .domain (.insufficientFunds account.balance.amount amount)

/-- The sum of the balance and the amount is past the greatest amount. -/
def overflow (store : Store Account) (text : String) (amount : Int64) : Ground := fun error =>
  ∃ account ∈ store.items, account.id.text = text ∧
    Int64.maxValue.toInt < account.balance.amount.toInt + amount.toInt ∧
    error = .domain (.invalidValue "Balance overflow")

end Ground

open Ground

/-- The grounds of the domain, in the order in which they are looked at. -/
def Order.reasons (store : Store Account) : Order → List Ground
  | .deposit order =>
      [unfit order.account, unsupported order.currency, notPositive order.amount,
        missing store order.account, foreign store order.account order.currency,
        overflow store order.account order.amount]
  | .withdraw order =>
      [unfit order.account, unsupported order.currency, notPositive order.amount,
        missing store order.account, foreign store order.account order.currency,
        short store order.account order.amount]
  | .transfer order =>
      [unfit order.source, unfit order.target, sameAccount order, unsupported order.currency,
        notPositive order.amount, missing store order.source,
        foreign store order.source order.currency, short store order.source order.amount,
        missing store order.target, foreign store order.target order.currency,
        overflow store order.target order.amount]

/-- All grounds: before those of the domain, that of the request. -/
def Order.grounds (context : Context) (store : Store Account) (order : Order) : List Ground :=
  busless context :: order.reasons store

/-- The error of the first ground that holds. -/
inductive First (error : AppError) : List Ground → Prop
  | here {ground : Ground} {rest : List Ground} (holds : ground error) :
      First error (ground :: rest)
  | later {ground : Ground} {rest : List Ground} (free : ∀ other, ¬ground other)
      (first : First error rest) : First error (ground :: rest)

namespace First

variable {error failure : AppError} {ground : Ground} {grounds rest first second : List Ground}

/-- No ground is looked at after one that holds. -/
theorem head_iff (holds : ground failure) (only : ∀ other, ground other → other = failure) :
    First error (ground :: rest) ↔ error = failure := by
  constructor
  · rintro (own | ⟨free, -⟩)
    · exact only error own
    · exact absurd holds (free failure)
  · rintro rfl
    exact .here holds

/-- A ground that does not hold has no say. -/
theorem tail_iff (free : ∀ other, ¬ground other) :
    First error (ground :: rest) ↔ First error rest := by
  constructor
  · rintro (holds | ⟨-, later⟩)
    · exact absurd holds (free error)
    · exact later
  · exact .later free

theorem append_iff :
    First error (first ++ second) ↔
      First error first ∨ (∀ other, ¬First other first) ∧ First error second := by
  induction first with
  | nil =>
      constructor
      · intro later
        exact Or.inr ⟨nofun, later⟩
      · rintro (impossible | ⟨-, later⟩)
        · cases impossible
        · exact later
  | cons ground rest ih =>
      constructor
      · rintro (holds | ⟨free, later⟩)
        · exact Or.inl (.here holds)
        · rcases ih.mp later with one | ⟨none, other⟩
          · exact Or.inl (.later free one)
          · exact Or.inr ⟨fun error one => none error ((tail_iff free).mp one), other⟩
      · rintro ((holds | ⟨free, later⟩) | ⟨none, later⟩)
        · exact .here holds
        · exact .later free (ih.mpr (Or.inl later))
        · have free : ∀ other, ¬ground other := fun other holds => none other (.here holds)
          exact .later free (ih.mpr (Or.inr ⟨fun other first => none other (.later free first),
            later⟩))

/-- There is no first ground exactly where none holds. -/
theorem none_iff :
    (∀ other, ¬First other grounds) ↔ ∀ ground ∈ grounds, ∀ error, ¬ground error := by
  induction grounds with
  | nil => exact ⟨fun _ => nofun, fun _ _ => nofun⟩
  | cons ground rest ih =>
      rw [List.forall_mem_cons, ← ih]
      constructor
      · intro none
        have free : ∀ other, ¬ground other := fun other holds => none other (.here holds)
        exact ⟨free, fun other first => none other (.later free first)⟩
      · rintro ⟨free, none⟩ other first
        exact none other ((tail_iff free).mp first)

end First

/-- Where the request has an event bus, the grounds of the domain decide. -/
theorem Order.first_ground_iff {context : Context} {bus : BusId}
    (present : context.events = some bus) (store : Store Account) (order : Order)
    (error : AppError) :
    First error (order.grounds context store) ↔ First error (order.reasons store) := by
  refine First.tail_iff fun other busless => ?_
  cases busless.1.symm.trans present

/-! ## Computations -/

/-- The computation fails exactly with the error of the first ground that holds. -/
def Settles {α : Type} (grounds : List Ground) (result : Except DomainError α) : Prop :=
  ∀ error, First error grounds ↔ ∃ failure, result = .error failure ∧ error = .domain failure

namespace Settles

variable {α β : Type} {grounds others : List Ground}

theorem ok (value : α) : Settles [] (.ok value : Except DomainError α) := by
  intro error
  constructor
  · intro impossible
    cases impossible
  · rintro ⟨failure, impossible, -⟩
    cases impossible

/-- A step that fails because a ground holds, with the one error that this gives. -/
theorem fails {ground : Ground} {failure : DomainError} (holds : ground (.domain failure))
    (only : ∀ error, ground error → error = .domain failure) :
    Settles (ground :: grounds) (.error failure : Except DomainError α) := by
  intro error
  rw [First.head_iff holds only]
  constructor
  · rintro rfl
    exact ⟨failure, rfl, rfl⟩
  · rintro ⟨other, same, rfl⟩
    cases same
    rfl

theorem skips {ground : Ground} {result : Except DomainError α} (free : ∀ error, ¬ground error)
    (rest : Settles grounds result) : Settles (ground :: grounds) result :=
  fun error => (First.tail_iff free).trans (rest error)

/-- A step that does not fail because its one ground does not hold. -/
theorem passes {ground : Ground} (free : ∀ error, ¬ground error) (value : α) :
    Settles [ground] (.ok value : Except DomainError α) :=
  .skips free (.ok value)

/-- One step after another settles one row of grounds after another. -/
theorem bind {step : Except DomainError α} {next : α → Except DomainError β}
    (first : Settles grounds step)
    (rest : ∀ value, step = .ok value → Settles others (next value)) :
    Settles (grounds ++ others) (step >>= next) := by
  intro error
  rw [First.append_iff]
  cases step with
  | error failure =>
      have holds : First (.domain failure) grounds := (first _).mpr ⟨failure, rfl, rfl⟩
      rw [first error]
      constructor
      · rintro (⟨own, same, rfl⟩ | ⟨none, -⟩)
        · cases same
          exact ⟨failure, rfl, rfl⟩
        · exact absurd holds (none _)
      · rintro ⟨own, same, rfl⟩
        cases same
        exact Or.inl ⟨failure, rfl, rfl⟩
  | ok value =>
      have none : ∀ other, ¬First other grounds := by
        intro other holds
        obtain ⟨failure, impossible, -⟩ := (first other).mp holds
        cases impossible
      refine Iff.trans ?_ (rest value rfl error)
      exact ⟨fun either => (either.resolve_left (none error)).2, fun later => Or.inr ⟨none, later⟩⟩

end Settles

/-! ## Steps -/

theorem settles_parse (text : String) :
    Settles [unfit text] (Identifier.parse accountKind text) := by
  cases parsed : Identifier.parse accountKind text with
  | ok id =>
      refine .passes ?_ _
      rintro error ⟨reason, objection, -⟩
      cases parsed.symm.trans (Identifier.parse_error_iff.mpr ⟨reason, objection, rfl⟩)
  | error failure =>
      obtain ⟨reason, objection, rfl⟩ := Identifier.parse_error_iff.mp parsed
      refine .fails ⟨reason, objection, rfl⟩ ?_
      rintro error ⟨other, objected, rfl⟩
      cases parsed.symm.trans (Identifier.parse_error_iff.mpr ⟨other, objected, rfl⟩)
      rfl

/-- Two texts that name one account are one text. -/
theorem settles_apart (order : TransferOrder) {source target : AccountId}
    (sourceNamed : source.text = order.source) (targetNamed : target.text = order.target) :
    Settles [sameAccount order] (checkApart source target) := by
  unfold checkApart
  split
  · rename_i same
    have texts : order.source = order.target := by rw [← sourceNamed, ← targetNamed, same]
    exact .fails ⟨texts, rfl⟩ fun _ holds => holds.2
  · rename_i apart
    refine .passes (fun error holds => apart (id_of_text sourceNamed ?_)) _
    rw [targetNamed, holds.1]

theorem settles_currency (code : String) : Settles [unsupported code] (Currency.parse code) := by
  cases parsed : Currency.parse code with
  | ok currency => exact .passes (fun _ holds => holds.1 currency (Currency.parse_ok parsed)) _
  | error failure =>
      have absent : ∀ currency : Currency, currency.code ≠ code := by
        rintro currency rfl
        rw [Currency.parse_code] at parsed
        cases parsed
      unfold Currency.parse at parsed
      split at parsed
      · cases parsed
      · cases parsed
        exact .fails ⟨absent, rfl⟩ fun _ holds => holds.2

theorem settles_make (amount : Int64) (currency : Currency) :
    Settles [notPositive amount] (Money.make amount currency) := by
  unfold Money.make
  split
  · rename_i positive
    refine .passes (fun _ holds => ?_) _
    have above : (0 : Int64).toInt < amount.toInt := Int64.lt_iff_toInt_lt.mp positive
    have below := holds.1
    rw [Int64.toInt_zero] at above
    omega
  · rename_i below
    have least : amount.toInt ≤ 0 := by
      rw [Int64.lt_iff_toInt_lt, Int64.toInt_zero] at below
      omega
    exact .fails ⟨least, rfl⟩ fun _ holds => holds.2

theorem settles_money (amount : Int64) (code : String) :
    Settles [unsupported code, notPositive amount] (Money.parse amount code) := by
  have steps : Money.parse amount code = Currency.parse code >>= Money.make amount := by
    unfold Money.parse
    cases Currency.parse code <;> rfl
  rw [steps]
  exact (settles_currency code).bind fun currency _ => settles_make amount currency

theorem settles_obtain (state : BankState) (id : AccountId) :
    Settles [missing state.accounts id.text] (state.obtain id) := by
  unfold BankState.obtain Store.obtain
  cases held : state.accounts.find? id with
  | some account =>
      obtain ⟨member, own⟩ := Store.mem_of_find? held
      exact .passes (fun _ holds => holds.1 account member (congrArg Identifier.text own)) account
  | none =>
      refine .fails ⟨fun account member same => ?_, rfl⟩ fun _ holds => holds.2
      have own : Aggregate.id account = id := id_of_text same rfl
      have apart := List.find?_eq_none.mp held account member
      exact apart (beq_iff_eq.mpr own)

section Accounts

variable {store : Store Account} {id : AccountId} {account : Account}
  (distinct : (store.items.map Account.id).Nodup) (held : store.find? id = some account)

include distinct held

/-- With distinct identifiers, the account that is found is the only one with its identifier. -/
theorem only_account {other : Account} (member : other ∈ store.items)
    (same : other.id.text = id.text) : other = account := by
  have found : store.find? other.id = some other := Store.find?_of_mem distinct member
  rw [id_of_text same rfl] at found
  exact Option.some.inj (found.symm.trans held)

theorem settles_check (money : Money) :
    Settles [foreign store id.text money.currency.code] (account.checkCurrency money) := by
  obtain ⟨member, own⟩ := Store.mem_of_find? held
  have named : account.id.text = id.text := congrArg Identifier.text own
  unfold Account.checkCurrency
  split
  · rename_i same
    refine .passes ?_ _
    rintro error ⟨other, listed, known, apart, -⟩
    obtain rfl := only_account distinct held listed known
    exact apart (congrArg Currency.code same)
  · rename_i apart
    have codes : account.balance.currency.code ≠ money.currency.code :=
      fun same => apart (Currency.code_injective same)
    refine .fails ⟨account, member, named, codes, rfl⟩ ?_
    rintro error ⟨other, listed, known, -, rfl⟩
    obtain rfl := only_account distinct held listed known
    rfl

theorem settles_credit (money : Money) :
    Settles [overflow store id.text money.amount] (account.balance.credit money) := by
  obtain ⟨member, own⟩ := Store.mem_of_find? held
  have named : account.id.text = id.text := congrArg Identifier.text own
  cases credited : account.balance.credit money with
  | ok balance =>
      have fits := Balance.credit_ok_iff.mp ⟨balance, credited⟩
      refine .passes ?_ _
      rintro error ⟨other, listed, known, past, -⟩
      obtain rfl := only_account distinct held listed known
      omega
  | error failure =>
      obtain ⟨past, rfl⟩ := Balance.credit_error_iff.mp credited
      exact .fails ⟨account, member, named, past, rfl⟩ fun _ ⟨_, _, _, _, same⟩ => same

theorem settles_debit (money : Money) :
    Settles [short store id.text money.amount] (account.balance.debit money) := by
  obtain ⟨member, own⟩ := Store.mem_of_find? held
  have named : account.id.text = id.text := congrArg Identifier.text own
  cases debited : account.balance.debit money with
  | ok balance =>
      have covers := Balance.debit_ok_iff.mp ⟨balance, debited⟩
      refine .passes ?_ _
      rintro error ⟨other, listed, known, below, -⟩
      obtain rfl := only_account distinct held listed known
      omega
  | error failure =>
      obtain ⟨below, rfl⟩ := Balance.debit_error_iff.mp debited
      refine .fails ⟨account, member, named, below, rfl⟩ ?_
      rintro error ⟨other, listed, known, -, rfl⟩
      obtain rfl := only_account distinct held listed known
      rfl

/-- A transition settles its check of the currency and then what moves the balance. -/
theorem settles_apply (attempt : Attempt) {ground : Ground}
    (moving : Settles [ground] (attempt.movement.move account.balance attempt.money)) :
    Settles [foreign store id.text attempt.money.currency.code, ground]
      (attempt.apply account) := by
  rw [Attempt.apply_eq]
  refine (settles_check distinct held attempt.money).bind fun _ _ => ?_
  exact moving.bind fun balance _ => .ok (attempt.moved account balance)

end Accounts

/-! ## Orders -/

theorem settles_decideMoney (movement : Movement) {order : MoneyOrder} {state : BankState}
    {ground : Ground}
    (moving : ∀ {id : AccountId} {account : Account} {money : Money}, id.text = order.account →
      money.amount = order.amount → state.accounts.find? id = some account →
      Settles [ground] (movement.move account.balance money))
    (distinct : (state.accounts.items.map Account.id).Nodup) :
    Settles [unfit order.account, unsupported order.currency, notPositive order.amount,
        missing state.accounts order.account,
        foreign state.accounts order.account order.currency, ground]
      (BankState.decideMoney
        (fun account stamp money => Attempt.apply ⟨movement, stamp, money⟩ account)
        order state) := by
  refine (settles_parse order.account).bind fun id parsed => ?_
  have named := Identifier.parse_ok_iff.mp parsed
  refine (settles_money order.amount order.currency).bind fun money paid => ?_
  obtain ⟨amount, currency⟩ := Money.parse_ok paid
  rw [← named, ← currency]
  refine (settles_obtain state id).bind fun account loaded => ?_
  have held := (BankState.obtain_ok loaded).1
  exact (settles_apply distinct held ⟨movement, state.stampAfter 0, money⟩
    (moving named amount held)).bind fun after _ => .ok _

theorem settles_decideTransfer {order : TransferOrder} {state : BankState}
    (distinct : (state.accounts.items.map Account.id).Nodup) :
    Settles (Order.reasons state.accounts (.transfer order))
      (BankState.decideTransfer order state) := by
  refine (settles_parse order.source).bind fun sourceId parsed => ?_
  have sourceNamed := Identifier.parse_ok_iff.mp parsed
  refine (settles_parse order.target).bind fun targetId parsed => ?_
  have targetNamed := Identifier.parse_ok_iff.mp parsed
  refine (settles_apart order sourceNamed targetNamed).bind fun _ _ => ?_
  refine (settles_money order.amount order.currency).bind fun money paid => ?_
  obtain ⟨amount, currency⟩ := Money.parse_ok paid
  rw [← sourceNamed, ← targetNamed, ← amount, ← currency]
  refine (settles_obtain state sourceId).bind fun source loaded => ?_
  have sourceHeld := (BankState.obtain_ok loaded).1
  refine (settles_apply distinct sourceHeld ⟨.transferOut targetId, state.stampAfter 0, money⟩
    (settles_debit distinct sourceHeld money)).bind fun sent _ => ?_
  refine (settles_obtain state targetId).bind fun target loaded => ?_
  have targetHeld := (BankState.obtain_ok loaded).1
  refine (settles_apply distinct targetHeld ⟨.transferIn sourceId, state.stampAfter 1, money⟩
    (settles_credit distinct targetHeld money)).bind fun received _ => .ok _

/-- **The decision on an order is refused on the first ground that holds**, and is taken where
none does. -/
theorem Order.decide_settles (order : Order) {state : BankState}
    (distinct : (state.accounts.items.map Account.id).Nodup) :
    Settles (order.reasons state.accounts) (order.decide state) := by
  cases order with
  | deposit order =>
      refine settles_decideMoney .deposit (fun named amount held => ?_) distinct
      rw [← named, ← amount]
      exact settles_credit distinct held _
  | withdraw order =>
      refine settles_decideMoney .withdraw (fun named amount held => ?_) distinct
      rw [← named, ← amount]
      exact settles_debit distinct held _
  | transfer order => exact settles_decideTransfer distinct

end Cqrs.Bank
