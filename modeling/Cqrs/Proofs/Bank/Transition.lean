/-
# Proofs.Bank.Transition -- when a transition fails, and what it gives otherwise

A transition looks at two things in order: money of another currency is refused (`Foreign`), and
in one currency a sum past the greatest amount (`PastLimit`) or an amount that the balance does
not cover (`Uncovered`).  Where nothing is refused, the balance is the exact sum or difference
(`Adds`, `Takes`).  The four transitions differ in nothing but how they move the balance, so both
are cases of one account of an attempt (`Attempt.comes`).

Nothing is left to the arithmetic of 64 bits: the sum is checked, the difference cannot wrap
around, and what comes out of either is a balance without being looked at again.
-/
import Cqrs.Proofs.Bank.Ledger

namespace Cqrs.Bank

set_option autoImplicit false

/-! ## Refusals -/

/-- The money is of another currency than the balance. -/
def Foreign (balance : Balance) (money : Money) (failure : DomainError) : Prop :=
  balance.currency ≠ money.currency ∧
    failure = .currencyMismatch balance.currency.code money.currency.code

/-- In one currency, the sum is past the greatest amount. -/
def PastLimit (balance : Balance) (money : Money) (failure : DomainError) : Prop :=
  balance.currency = money.currency ∧
    Int64.maxValue.toInt < balance.amount.toInt + money.amount.toInt ∧
    failure = .invalidValue "Balance overflow"

/-- In one currency, the balance is below the amount. -/
def Uncovered (balance : Balance) (money : Money) (failure : DomainError) : Prop :=
  balance.currency = money.currency ∧ balance.amount.toInt < money.amount.toInt ∧
    failure = .insufficientFunds balance.amount money.amount

/-- A transition fails exactly with the errors that are told, and where there is none it gives an
account that stands at a sum in a currency. -/
structure Comes (told : DomainError → Prop) (currency : Currency) (sum : Int)
    (result : Except DomainError Account) : Prop where
  fails_iff : ∀ failure, result = .error failure ↔ told failure
  gives : (∀ failure, ¬told failure) → ∃ after, result = .ok after ∧
    after.balance.currency = currency ∧ after.balance.amount.toInt = sum

/-- Money comes to an account, unless it is foreign or past the limit. -/
def Adds (account : Account) (money : Money) (result : Except DomainError Account) : Prop :=
  Comes (fun failure => Foreign account.balance money failure ∨
      PastLimit account.balance money failure)
    account.balance.currency (account.balance.amount.toInt + money.amount.toInt) result

/-- Money leaves an account, unless it is foreign or not covered. -/
def Takes (account : Account) (money : Money) (result : Except DomainError Account) : Prop :=
  Comes (fun failure => Foreign account.balance money failure ∨
      Uncovered account.balance money failure)
    account.balance.currency (account.balance.amount.toInt - money.amount.toInt) result

/-- What is given is what no error is told of. -/
theorem Comes.of_ok {told : DomainError → Prop} {currency : Currency} {sum : Int}
    {result : Except DomainError Account} {after : Account}
    (comes : Comes told currency sum result) (given : result = .ok after) :
    (∀ failure, ¬told failure) ∧
      after.balance.currency = currency ∧ after.balance.amount.toInt = sum := by
  have none : ∀ failure, ¬told failure := by
    intro failure holds
    have failed := (comes.fails_iff failure).mpr holds
    cases failed.symm.trans given
  obtain ⟨other, same, stands⟩ := comes.gives none
  cases same.symm.trans given
  exact ⟨none, stands⟩

/-! ## Attempts -/

/-- What moving a balance is refused for. -/
def Movement.Refuses (movement : Movement) (balance : Balance) (money : Money)
    (failure : DomainError) : Prop :=
  match movement with
  | .deposit | .transferIn _ => PastLimit balance money failure
  | .withdraw | .transferOut _ => Uncovered balance money failure

theorem Movement.refuses_iff (movement : Movement) {balance : Balance} {money : Money}
    (same : balance.currency = money.currency) (failure : DomainError) :
    movement.Refuses balance money failure ↔ movement.move balance money = .error failure := by
  cases movement with
  | deposit | transferIn =>
      exact (and_iff_right same).trans Balance.credit_error_iff.symm
  | withdraw | transferOut =>
      exact (and_iff_right same).trans Balance.debit_error_iff.symm

theorem Movement.Refuses.same {movement : Movement} {balance : Balance} {money : Money}
    {failure : DomainError} (refuses : movement.Refuses balance money failure) :
    balance.currency = money.currency := by
  cases movement <;> exact refuses.1

/-- An attempt fails where the money is foreign or moving the balance is refused, and moves the
balance exactly otherwise. -/
theorem Attempt.comes (attempt : Attempt) (account : Account) :
    Comes (fun failure => Foreign account.balance attempt.money failure ∨
        attempt.movement.Refuses account.balance attempt.money failure)
      account.balance.currency (account.balance.amount.toInt + attempt.transaction.signed)
      (attempt.apply account) := by
  rw [attempt.apply_eq]
  unfold Account.checkCurrency
  by_cases same : account.balance.currency = attempt.money.currency
  · rw [if_pos same]
    have refuses_iff := attempt.movement.refuses_iff same
    have own : ∀ failure, Foreign account.balance attempt.money failure ∨
        attempt.movement.Refuses account.balance attempt.money failure ↔
        attempt.movement.move account.balance attempt.money = .error failure := by
      intro failure
      rw [← refuses_iff failure]
      exact or_iff_right fun foreign => foreign.1 same
    cases moved : attempt.movement.move account.balance attempt.money with
    | error other =>
        refine ⟨fun failure => ?_, fun none => absurd ((own other).mpr moved) (none other)⟩
        rw [own failure, moved]
        constructor
        · rintro ⟨⟩
          rfl
        · rintro ⟨⟩
          rfl
    | ok balance =>
        obtain ⟨amount, currency⟩ := Movement.move_ok moved
        refine ⟨fun failure => ?_, fun _ => ⟨_, rfl, currency, amount⟩⟩
        rw [own failure, moved]
        exact ⟨nofun, nofun⟩
  · rw [if_neg same]
    refine ⟨fun failure => ?_, fun none => absurd (Or.inl ⟨same, rfl⟩) (none _)⟩
    constructor
    · rintro ⟨⟩
      exact Or.inl ⟨same, rfl⟩
    · rintro (foreign | refused)
      · rw [foreign.2]
        rfl
      · exact absurd refused.same same

/-! ## There and back -/

@[ext]
theorem Balance.ext {a b : Balance} (amount : a.amount.toInt = b.amount.toInt)
    (currency : a.currency = b.currency) : a = b := by
  obtain ⟨amountA, currencyA, _⟩ := a
  obtain ⟨amountB, currencyB, _⟩ := b
  obtain rfl : amountA = amountB := Int64.toInt_inj.mp amount
  obtain rfl : currencyA = currencyB := currency
  rfl

section Undone

variable {account after : Account} {money : Money} {there back : Except DomainError Account}

/-- Money that came to an account is covered. -/
theorem Adds.undone (adds : Adds account money there) (given : there = .ok after)
    (takes : Takes after money back) :
    ∃ restored, back = .ok restored ∧ restored.balance = account.balance := by
  obtain ⟨none, currency, amount⟩ := adds.of_ok given
  have lower := account.balance.bounds.1
  have free : ∀ failure, ¬(Foreign after.balance money failure ∨
      Uncovered after.balance money failure) := by
    rintro failure (⟨apart, -⟩ | ⟨-, below, -⟩)
    · rw [currency] at apart
      exact none _ (Or.inl ⟨apart, rfl⟩)
    · omega
  obtain ⟨restored, done, inCurrency, exactly⟩ := takes.gives free
  refine ⟨restored, done, Balance.ext ?_ (inCurrency.trans currency)⟩
  omega

/-- Money that left an account fits in again. -/
theorem Takes.undone (takes : Takes account money there) (given : there = .ok after)
    (adds : Adds after money back) :
    ∃ restored, back = .ok restored ∧ restored.balance = account.balance := by
  obtain ⟨none, currency, amount⟩ := takes.of_ok given
  have upper := account.balance.bounds.2
  have free : ∀ failure, ¬(Foreign after.balance money failure ∨
      PastLimit after.balance money failure) := by
    rintro failure (⟨apart, -⟩ | ⟨-, past, -⟩)
    · rw [currency] at apart
      exact none _ (Or.inl ⟨apart, rfl⟩)
    · omega
  obtain ⟨restored, done, inCurrency, exactly⟩ := adds.gives free
  refine ⟨restored, done, Balance.ext ?_ (inCurrency.trans currency)⟩
  omega

end Undone

/-- **A transition fails exactly when it must, and its balance is exact.**  A deposit and a transfer
to the account fail on foreign money and on a sum past the greatest amount, a withdrawal and a
transfer from it on foreign money and on an amount that is not covered, and otherwise the balance
is the exact sum or difference.  A sum that was checked is a balance, and so is the difference of a
covered amount, which does not wrap around; so a deposit can always be withdrawn again, and a
withdrawal deposited, and the balance is then what it was. -/
theorem transition_exact (account : Account) (money : Money) (stamp later : Stamp)
    (other : AccountId) :
    Adds account money (account.deposit stamp money) ∧
    Adds account money (account.transferIn stamp money other) ∧
    Takes account money (account.withdraw stamp money) ∧
    Takes account money (account.transferOut stamp money other) ∧
    (∀ sum, Balance.sum? account.balance.amount money.amount = some sum →
      sum.toInt = account.balance.amount.toInt + money.amount.toInt ∧
      ∃ balance, Balance.make sum account.balance.currency = .ok balance) ∧
    (¬account.balance.amount < money.amount →
      (account.balance.amount - money.amount).toInt =
        account.balance.amount.toInt - money.amount.toInt ∧
      ∃ balance, Balance.make (account.balance.amount - money.amount)
        account.balance.currency = .ok balance) ∧
    (∀ after, account.deposit stamp money = .ok after →
      ∃ restored, after.withdraw later money = .ok restored ∧
        restored.balance = account.balance) ∧
    (∀ after, account.withdraw stamp money = .ok after →
      ∃ restored, after.deposit later money = .ok restored ∧
        restored.balance = account.balance) := by
  have deposits : ∀ account stamp, Adds account money (Account.deposit account stamp money) :=
    fun account stamp => Attempt.comes ⟨.deposit, stamp, money⟩ account
  have withdraws : ∀ account stamp, Takes account money (Account.withdraw account stamp money) :=
    fun account stamp => Attempt.comes ⟨.withdraw, stamp, money⟩ account
  refine ⟨deposits account stamp, Attempt.comes ⟨.transferIn other, stamp, money⟩ account,
    withdraws account stamp, Attempt.comes ⟨.transferOut other, stamp, money⟩ account,
    fun sum added => ⟨Balance.sum?_eq_some added, Balance.make_of_sum? added⟩, fun covered => ?_,
    fun after given => (deposits account stamp).undone given (withdraws after later),
    fun after given => (withdraws account stamp).undone given (deposits after later)⟩
  have covers : money.amount.toInt ≤ account.balance.amount.toInt := by
    rw [Int64.lt_iff_toInt_lt] at covered
    omega
  exact ⟨Balance.toInt_sub covers, Balance.make_of_covers covers⟩

end Cqrs.Bank
