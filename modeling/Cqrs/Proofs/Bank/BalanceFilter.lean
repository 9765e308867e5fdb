/-
# Proofs.Bank.BalanceFilter -- filters of balances

The balance of an account is an integer of 64 bits, and a criterion holds it against others as a
binary64 number.  `filterProjections_iff` says which filters are exact all the same: those that blur
no balance of a stored account.
-/
import Cqrs.Proofs.Filter.Integers
import Cqrs.Proofs.Filter.Paging

namespace Cqrs.Bank

set_option autoImplicit false

open Cqrs.Filter (Projection Exposes Meets Criterion IntegerTest)
open Cqrs.Number (SpelledInteger Merged)

/-- The projections of the stored accounts of which a test of the balance holds. -/
def selected (test : IntegerTest) (store : Store Account) : List AccountProjection :=
  (store.items.map .ofAccount).filter fun projection => test.Holds projection.balanceAmount.toInt

theorem AccountProjection.exposes (projection : AccountProjection) :
    Exposes projection "balanceAmount" (.int projection.balanceAmount.toInt) where
  allowed := by decide
  held := rfl
  present := nofun

theorem spelledInteger_toInt (amount : Int64) : SpelledInteger amount.toInt := by
  have lower := amount.le_toInt
  have upper := amount.toInt_lt
  constructor
  · omega
  · omega

/-- **A filter of balances is exact unless it blurs one of them.** -/
theorem filterProjections_iff {test : IntegerTest} (spelled : test.Spelled)
    {criterion : Criterion AccountProjection}
    (made : Criterion.make AccountProjection "balanceAmount" test.operator test.value =
      .ok criterion) (store : Store Account) :
    (∀ offset limit, filterProjections store offset limit [criterion] =
        ((selected test store).drop offset).take limit) ↔
      ∀ account ∈ store.items, ¬test.Blurs account.balance.amount.toInt := by
  have exact_iff : ∀ projection : AccountProjection,
      (criterion.isMetBy projection = true ↔ test.Holds projection.balanceAmount.toInt) ↔
        ¬test.Blurs projection.balanceAmount.toInt := by
    intro projection
    rw [← Filter.meets_iff_isMetBy made]
    exact Filter.meets_iff_holds_iff projection.exposes (spelledInteger_toInt _) spelled
  simp only [filterProjections, Filter.page_singleton]
  rw [Filter.pages_eq_iff, selected, Filter.filter_eq_filter_iff, List.forall_mem_map]
  simp only [decide_eq_true_eq, exact_iff]
  rfl

/-- **A comparison of integers is exact unless it blurs them.**  Let a projection expose an
integer, and let all integers be such as a JSON text spells.  A criterion that compares is met
exactly where its comparison holds of the integer, unless the test blurs it, and then it never is.
So equality agrees with the set of one member unless the two integers are one number.  What a test
blurs is one number with a bound of the test: both have a magnitude of `2 ^ 53` at least, and they
are `2 ^ 11` apart at most.  A filter of the stored accounts by such a criterion gives the pages of
those whose balance is as the test says, unless it blurs the balance of one of them. -/
theorem integers_exact_iff {π : Type} [Projection π] {projection : π} {field : String} {a : Int}
    (exposes : Exposes projection field (.int a)) (first : SpelledInteger a)
    (store : Store Account) :
    (∀ test : IntegerTest, test.Spelled →
      ((Meets projection field test.operator test.value ↔ test.Holds a) ↔ ¬test.Blurs a)) ∧
    (∀ bound, SpelledInteger bound →
      (Meets projection field .isIn (.array [.int bound]) ↔ a = bound) ∧
      ((Meets projection field .eq (.int bound) ↔
        Meets projection field .isIn (.array [.int bound])) ↔ ¬Merged a bound)) ∧
    (∀ test : IntegerTest, test.Spelled → test.Blurs a →
      ∃ bound ∈ test.bounds, Merged a bound ∧ 2 ^ 53 ≤ a.natAbs ∧ 2 ^ 53 ≤ bound.natAbs ∧
        (a - bound).natAbs ≤ 2048) ∧
    ∀ test : IntegerTest, test.Spelled → ∃ criterion,
      Criterion.make AccountProjection "balanceAmount" test.operator test.value =
        .ok criterion ∧
      ((∀ offset limit, filterProjections store offset limit [criterion] =
          ((selected test store).drop offset).take limit) ↔
        ∀ account ∈ store.items, ¬test.Blurs account.balance.amount.toInt) := by
  refine ⟨fun test spelled => ?_, fun bound second => ⟨?_, ?_⟩, fun test spelled blurs => ?_,
    fun test spelled => ?_⟩
  · exact Filter.meets_iff_holds_iff exposes first spelled
  · exact Filter.meets_isIn_iff exposes bound
  · have spelled : (IntegerTest.eq bound).Spelled := by
      intro other named
      rwa [List.mem_singleton.mp named]
    rw [Filter.meets_isIn_iff exposes bound]
    exact Filter.meets_iff_holds_iff exposes first spelled
  · obtain ⟨bound, named, merged⟩ := blurs.merged
    exact ⟨bound, named, merged, merged.large.1, merged.large.2,
      merged.close first (spelled bound named)⟩
  · have allowed : "balanceAmount" ∈ Projection.filterable AccountProjection := by decide
    obtain ⟨criterion, made⟩ := test.accepts allowed
    exact ⟨criterion, made, filterProjections_iff spelled made store⟩

/-- An account with one more than `2 ^ 53`. -/
def largeAccount : Account :=
  .build ⟨"acc-large", by decide⟩ ⟨9007199254740993, .usd, by decide⟩ []

def largeProjection : AccountProjection := .ofAccount largeAccount

/-- A balance that is not blurred is told from its bound, and one that is blurred is not. -/
theorem integers_exact_iff_largeProjection :
    Exposes largeProjection "balanceAmount" (.int 9007199254740993) ∧
      SpelledInteger 9007199254740993 ∧
      (Meets largeProjection "balanceAmount" .lt (.int 9007199254740995) ↔
        (9007199254740993 : Int) < 9007199254740995) ∧
      ¬(Meets largeProjection "balanceAmount" .gt (.int 9007199254740992) ↔
        (9007199254740992 : Int) < 9007199254740993) := by
  have exposes : Exposes largeProjection "balanceAmount" (.int 9007199254740993) :=
    largeProjection.exposes
  have spelled : SpelledInteger 9007199254740993 := by decide
  obtain ⟨exact, -⟩ := integers_exact_iff exposes spelled ⟨[largeAccount]⟩
  refine ⟨exposes, spelled, ?_, ?_⟩
  · exact (exact (.lt 9007199254740995) (by decide)).mpr (by decide +kernel)
  · intro agrees
    exact (exact (.gt 9007199254740992) (by decide)).mp agrees (by decide +kernel)

/-- An account is found by a balance that it has not, and only the set of it is right. -/
theorem largeProjection_meets_other_balance :
    Exposes largeProjection "balanceAmount" (.int 9007199254740993) ∧
      Meets largeProjection "balanceAmount" .eq (.int 9007199254740992) ∧
      ¬Meets largeProjection "balanceAmount" .gt (.int 9007199254740992) ∧
      ¬Meets largeProjection "balanceAmount" .isIn (.array [.int 9007199254740992]) := by
  have exposes : Exposes largeProjection "balanceAmount" (.int 9007199254740993) :=
    largeProjection.exposes
  refine ⟨exposes, ?_, ?_, ?_⟩
  · rw [Filter.meets_scalar_iff exposes (by decide)]
    decide +kernel
  · rw [Filter.meets_scalar_iff exposes (by decide)]
    decide +kernel
  · rw [Filter.meets_set_iff exposes]
    decide +kernel

end Cqrs.Bank
