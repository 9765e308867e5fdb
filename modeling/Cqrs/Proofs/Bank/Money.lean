/-
# Proofs.Bank.Money -- amounts in exact integers

Amounts have 64 bits, but no sum or difference that a balance accepts ever wraps around:
`credit_ok` and `debit_ok` give the new balance as an exact integer, `credit_ok_iff` and
`debit_ok_iff` say when there is one, and `credit_error_iff` and `debit_error_iff` what is said when
there is none.  A balance lies between nothing and the greatest amount
(`Balance.bounds`), and money is read in the currency its text names (`Money.parse_ok`), as the code
of a currency is read as the currency (`Currency.parse_code`).
-/
import Cqrs.Bank.Money

namespace Cqrs

set_option autoImplicit false

/-- The name of a value is read as the value, where no two have one name. -/
theorem Vocabulary.read?_name {α : Type} [Vocabulary α]
    (distinct : ∀ {a b : α}, name a = name b → a = b) {value : α}
    (listed : value ∈ (values : List α)) : read? (name value) = some value := by
  cases found : (read? (name value) : Option α) with
  | none =>
      have absent := List.find?_eq_none.mp found value listed
      simp at absent
  | some other =>
      have named : name other = name value := by simpa using List.find?_some found
      rw [distinct named]

namespace Bank

/-- No two currencies share a code. -/
theorem Currency.code_injective {a b : Currency} (same : a.code = b.code) : a = b := by
  cases a <;> cases b <;> first | rfl | exact absurd same (by decide)

theorem Currency.parse_ok {text : String} {currency : Currency}
    (parsed : Currency.parse text = .ok currency) : currency.code = text := by
  unfold Currency.parse at parsed
  split at parsed
  · rename_i value found
    cases parsed
    have named : Vocabulary.name currency = text := by simpa using List.find?_some found
    exact named
  · cases parsed

theorem Currency.parse_code (currency : Currency) :
    Currency.parse currency.code = .ok currency := by
  have listed : currency ∈ (Vocabulary.values : List Currency) := by cases currency <;> decide
  have read : Vocabulary.read? currency.code = some currency :=
    Vocabulary.read?_name Currency.code_injective listed
  simp only [Currency.parse, read]

namespace Money

theorem amount_pos (money : Money) : 0 < money.amount.toInt := by
  have positive := Int64.lt_iff_toInt_lt.mp money.positive
  simpa using positive

theorem parse_ok {amount : Int64} {text : String} {money : Money}
    (parsed : Money.parse amount text = .ok money) :
    money.amount = amount ∧ money.currency.code = text := by
  unfold Money.parse make at parsed
  split at parsed
  · rename_i currency named
    split at parsed
    · cases parsed
      exact ⟨rfl, Currency.parse_ok named⟩
    · cases parsed
  · cases parsed

end Money

namespace Balance

/-- A balance lies between nothing and the greatest amount. -/
theorem bounds (balance : Balance) :
    0 ≤ balance.amount.toInt ∧ balance.amount.toInt ≤ Int64.maxValue.toInt := by
  have nonnegative := Int64.le_iff_toInt_le.mp balance.nonnegative
  constructor
  · simpa using nonnegative
  · have upper := Int64.toInt_le balance.amount
    rw [Int64.toInt_maxValue]
    exact upper

theorem make_ok {amount : Int64} {currency : Currency} {balance : Balance}
    (made : make amount currency = .ok balance) :
    balance.amount = amount ∧ balance.currency = currency := by
  unfold make at made
  split at made
  · cases made
    exact ⟨rfl, rfl⟩
  · cases made

/-- An amount that is not negative is a balance. -/
theorem make_of_nonneg {amount : Int64} (currency : Currency) (nonneg : 0 ≤ amount.toInt) :
    ∃ balance, make amount currency = .ok balance := by
  have nonnegative : 0 ≤ amount := by
    rw [Int64.le_iff_toInt_le, Int64.toInt_zero]
    exact nonneg
  exact ⟨⟨amount, currency, nonnegative⟩, dif_pos nonnegative⟩

/-- A sum that is an amount is the exact one. -/
theorem sum?_eq_some {a b sum : Int64} (added : sum? a b = some sum) :
    sum.toInt = a.toInt + b.toInt := by
  unfold sum? at added
  simp only [Int64.toInt_minValue, Int64.toInt_maxValue] at added
  split at added
  · rename_i fits
    cases added
    rw [Int64.toInt_add]
    apply Int.bmod_eq_of_le
    · omega
    · omega
  · cases added

/-- A sum that is an amount is a balance. -/
theorem make_of_sum? {balance : Balance} {money : Money} {sum : Int64}
    (added : sum? balance.amount money.amount = some sum) :
    ∃ after, make sum balance.currency = .ok after := by
  apply make_of_nonneg
  have lower := balance.bounds.1
  have positive := money.amount_pos
  rw [sum?_eq_some added]
  omega

/-- A difference does not wrap around where the balance covers the amount. -/
theorem toInt_sub {balance : Balance} {money : Money}
    (covers : money.amount.toInt ≤ balance.amount.toInt) :
    (balance.amount - money.amount).toInt = balance.amount.toInt - money.amount.toInt := by
  have positive := money.amount_pos
  have upper := balance.bounds.2
  rw [Int64.toInt_maxValue] at upper
  rw [Int64.toInt_sub]
  apply Int.bmod_eq_of_le
  · omega
  · omega

/-- A difference is a balance where the balance covers the amount. -/
theorem make_of_covers {balance : Balance} {money : Money}
    (covers : money.amount.toInt ≤ balance.amount.toInt) :
    ∃ after, make (balance.amount - money.amount) balance.currency = .ok after := by
  apply make_of_nonneg
  rw [toInt_sub covers]
  omega

/-- A credit adds the money exactly and keeps the currency. -/
theorem credit_ok {balance after : Balance} {money : Money}
    (credited : balance.credit money = .ok after) :
    after.amount.toInt = balance.amount.toInt + money.amount.toInt ∧
      after.currency = balance.currency := by
  unfold credit at credited
  split at credited
  · rename_i amount added
    obtain ⟨sameAmount, sameCurrency⟩ := make_ok credited
    rw [sameAmount]
    exact ⟨sum?_eq_some added, sameCurrency⟩
  · cases credited

/-- A debit takes the money away exactly and keeps the currency. -/
theorem debit_ok {balance after : Balance} {money : Money}
    (debited : balance.debit money = .ok after) :
    after.amount.toInt = balance.amount.toInt - money.amount.toInt ∧
      after.currency = balance.currency := by
  unfold debit at debited
  split at debited
  · cases debited
  · rename_i covered
    obtain ⟨sameAmount, sameCurrency⟩ := make_ok debited
    refine ⟨?_, sameCurrency⟩
    rw [sameAmount]
    apply toInt_sub
    rw [Int64.lt_iff_toInt_lt] at covered
    omega

/-- A credit succeeds exactly where the sum is no more than the greatest amount. -/
theorem credit_ok_iff {balance : Balance} {money : Money} :
    (∃ after, balance.credit money = .ok after) ↔
      balance.amount.toInt + money.amount.toInt ≤ Int64.maxValue.toInt := by
  constructor
  · rintro ⟨after, credited⟩
    rw [← (credit_ok credited).1]
    exact after.bounds.2
  · intro fits
    have lower := balance.bounds.1
    have positive := money.amount_pos
    obtain ⟨sum, added⟩ : ∃ sum, sum? balance.amount money.amount = some sum := by
      have least : Int64.minValue.toInt ≤ balance.amount.toInt + money.amount.toInt := by
        rw [Int64.toInt_minValue]
        omega
      exact ⟨_, if_pos ⟨least, fits⟩⟩
    simp only [credit, added]
    exact make_of_sum? added

/-- A debit succeeds exactly where the balance covers it. -/
theorem debit_ok_iff {balance : Balance} {money : Money} :
    (∃ after, balance.debit money = .ok after) ↔
      money.amount.toInt ≤ balance.amount.toInt := by
  constructor
  · rintro ⟨after, debited⟩
    have exactly := (debit_ok debited).1
    have lower := after.bounds.1
    omega
  · intro covers
    have covered : ¬balance.amount < money.amount := by
      rw [Int64.lt_iff_toInt_lt]
      omega
    simp only [debit, if_neg covered]
    exact make_of_covers covers

/-- A credit fails exactly where the sum is past the greatest amount. -/
theorem credit_error_iff {balance : Balance} {money : Money} {failure : DomainError} :
    balance.credit money = .error failure ↔
      Int64.maxValue.toInt < balance.amount.toInt + money.amount.toInt ∧
        failure = .invalidValue "Balance overflow" := by
  cases credited : balance.credit money with
  | ok after =>
      have fits := credit_ok_iff.mp ⟨after, credited⟩
      constructor
      · rintro ⟨⟩
      · rintro ⟨past, -⟩
        omega
  | error other =>
      have past : Int64.maxValue.toInt < balance.amount.toInt + money.amount.toInt := by
        apply Int.not_le.mp
        intro fits
        obtain ⟨after, instead⟩ := credit_ok_iff.mpr fits
        cases credited.symm.trans instead
      have worded : other = .invalidValue "Balance overflow" := by
        unfold credit at credited
        split at credited
        · rename_i sum added
          obtain ⟨after, made⟩ := make_of_sum? added
          cases credited.symm.trans made
        · cases credited
          rfl
      rw [worded]
      constructor
      · rintro ⟨⟩
        exact ⟨past, rfl⟩
      · rintro ⟨-, rfl⟩
        rfl

/-- A debit fails exactly where the balance does not cover it. -/
theorem debit_error_iff {balance : Balance} {money : Money} {failure : DomainError} :
    balance.debit money = .error failure ↔
      balance.amount.toInt < money.amount.toInt ∧
        failure = .insufficientFunds balance.amount money.amount := by
  cases debited : balance.debit money with
  | ok after =>
      have covers := debit_ok_iff.mp ⟨after, debited⟩
      constructor
      · rintro ⟨⟩
      · rintro ⟨below, -⟩
        omega
  | error other =>
      have below : balance.amount.toInt < money.amount.toInt := by
        apply Int.not_le.mp
        intro covers
        obtain ⟨after, instead⟩ := debit_ok_iff.mpr covers
        cases debited.symm.trans instead
      unfold debit at debited
      rw [if_pos (Int64.lt_iff_toInt_lt.mpr below)] at debited
      cases debited
      constructor
      · rintro ⟨⟩
        exact ⟨below, rfl⟩
      · rintro ⟨-, rfl⟩
        rfl

end Balance

end Bank

end Cqrs
