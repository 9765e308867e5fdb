/-
# Proofs.Filter.Integers -- criteria with integers

A criterion that compares holds two integers against each other as binary64 numbers, so what it
asks of an integer it asks of the nearest number of 53 bits (`meets_iff_rounded`).  A set is held
against the integer itself (`meets_isIn_iff`).  Rounding keeps the order, so a comparison can go
wrong in one way: two integers are one number, and the test tells them apart
(`IntegerTest.Blurs`).  It goes wrong there every time (`rounded_holds_iff`), and nowhere else.
-/
import Cqrs.Proofs.Filter.Agreement
import Cqrs.Proofs.Number.Rounding

namespace Cqrs.Filter

set_option autoImplicit false

open Number (SpelledInteger Merged nearest nearest_mono)

/-- A comparison of an integer with one bound or with two. -/
inductive IntegerTest where
  | eq (bound : Int)
  | neq (bound : Int)
  | gt (bound : Int)
  | gte (bound : Int)
  | lt (bound : Int)
  | lte (bound : Int)
  | between (low high : Int)
deriving DecidableEq, Repr

namespace IntegerTest

def operator : IntegerTest → Operator
  | eq _ => .eq
  | neq _ => .neq
  | gt _ => .gt
  | gte _ => .gte
  | lt _ => .lt
  | lte _ => .lte
  | between _ _ => .between

def value : IntegerTest → Json
  | eq bound | neq bound | gt bound | gte bound | lt bound | lte bound => .int bound
  | between low high => .array [.int low, .int high]

def bounds : IntegerTest → List Int
  | eq bound | neq bound | gt bound | gte bound | lt bound | lte bound => [bound]
  | between low high => [low, high]

/-- The test names integers that a JSON text spells as such. -/
def Spelled (test : IntegerTest) : Prop :=
  ∀ bound ∈ test.bounds, SpelledInteger bound

instance (test : IntegerTest) : Decidable test.Spelled :=
  inferInstanceAs (Decidable (∀ bound ∈ test.bounds, SpelledInteger bound))

def Holds : IntegerTest → Int → Prop
  | eq bound, a => a = bound
  | neq bound, a => a ≠ bound
  | gt bound, a => bound < a
  | gte bound, a => bound ≤ a
  | lt bound, a => a < bound
  | lte bound, a => a ≤ bound
  | between low high, a => low ≤ a ∧ a ≤ high

instance (test : IntegerTest) (a : Int) : Decidable (test.Holds a) :=
  match test with
  | eq bound => inferInstanceAs (Decidable (a = bound))
  | neq bound => inferInstanceAs (Decidable (a ≠ bound))
  | gt bound => inferInstanceAs (Decidable (bound < a))
  | gte bound => inferInstanceAs (Decidable (bound ≤ a))
  | lt bound => inferInstanceAs (Decidable (a < bound))
  | lte bound => inferInstanceAs (Decidable (a ≤ bound))
  | between low high => inferInstanceAs (Decidable (low ≤ a ∧ a ≤ high))

/-- The test of the numbers that stand for the integers. -/
def rounded : IntegerTest → IntegerTest
  | eq bound => eq (nearest bound)
  | neq bound => neq (nearest bound)
  | gt bound => gt (nearest bound)
  | gte bound => gte (nearest bound)
  | lt bound => lt (nearest bound)
  | lte bound => lte (nearest bound)
  | between low high => between (nearest low) (nearest high)

/-- The test tells the integer and a bound apart that are one number: equality does that to all of
them, an order to those on one side of its bound. -/
def Blurs : IntegerTest → Int → Prop
  | eq bound, a | neq bound, a => Merged a bound
  | gt bound, a | lte bound, a => bound < a ∧ Merged a bound
  | lt bound, a | gte bound, a => a < bound ∧ Merged a bound
  | between low high, a =>
      a < low ∧ Merged a low ∧ nearest a ≤ nearest high ∨
        high < a ∧ Merged a high ∧ nearest low ≤ nearest a

instance (test : IntegerTest) (a : Int) : Decidable (test.Blurs a) :=
  match test with
  | eq bound | neq bound => inferInstanceAs (Decidable (Merged a bound))
  | gt bound | lte bound => inferInstanceAs (Decidable (bound < a ∧ Merged a bound))
  | lt bound | gte bound => inferInstanceAs (Decidable (a < bound ∧ Merged a bound))
  | between low high =>
      inferInstanceAs (Decidable (a < low ∧ Merged a low ∧ nearest a ≤ nearest high ∨
        high < a ∧ Merged a high ∧ nearest low ≤ nearest a))

/-- Two integers stand to each other as their numbers do, or are one number. -/
theorem standing (a b : Int) :
    a < b ∧ nearest a ≤ nearest b ∨ a = b ∧ nearest a = nearest b ∨
      b < a ∧ nearest b ≤ nearest a := by
  rcases Int.lt_trichotomy a b with less | rfl | greater
  · exact Or.inl ⟨less, nearest_mono (Int.le_of_lt less)⟩
  · exact Or.inr (Or.inl ⟨rfl, rfl⟩)
  · exact Or.inr (Or.inr ⟨greater, nearest_mono (Int.le_of_lt greater)⟩)

/-- **Rounding changes what a test says of an integer exactly where the test blurs it.** -/
theorem rounded_holds_iff (test : IntegerTest) (a : Int) :
    (test.rounded.Holds (nearest a) ↔ test.Holds a) ↔ ¬test.Blurs a := by
  cases test with
  | eq bound | neq bound | gt bound | gte bound | lt bound | lte bound =>
      have := standing a bound
      simp only [rounded, Holds, Blurs, Merged]
      omega
  | between low high =>
      have := standing a low
      have := standing a high
      simp only [rounded, Holds, Blurs, Merged]
      omega

/-- What a test blurs is one number with a bound of it. -/
theorem Blurs.merged {test : IntegerTest} {a : Int} (blurs : test.Blurs a) :
    ∃ bound ∈ test.bounds, Merged a bound := by
  cases test with
  | eq bound | neq bound => exact ⟨bound, List.mem_singleton_self bound, blurs⟩
  | gt bound | gte bound | lt bound | lte bound =>
      exact ⟨bound, List.mem_singleton_self bound, blurs.2⟩
  | between low high =>
      rcases blurs with ⟨-, merged, -⟩ | ⟨-, merged, -⟩
      · exact ⟨low, List.mem_cons_self, merged⟩
      · exact ⟨high, List.mem_cons_of_mem _ List.mem_cons_self, merged⟩

end IntegerTest

/-! ## Criteria -/

theorem order?_int {a b : Int} (first : SpelledInteger a) (second : SpelledInteger b) :
    order? (.int a) (.int b) = some (compare (nearest a) (nearest b)) := by
  rw [order?_of_isNumber rfl]
  exact Number.Binary64.compare?_ofInt first second

section

variable {π : Type} [Projection π] {projection : π} {field : String}

/-- The operators of one order, where the order is one of integers. -/
theorem Comparing.integers {json : Json} {x y : Int}
    (comparing : Comparing projection field json (some (compare x y))) :
    (Meets projection field .eq json ↔ x = y) ∧ (Meets projection field .gt json ↔ y < x) ∧
      (Meets projection field .lt json ↔ x < y) ∧ (Meets projection field .gte json ↔ y ≤ x) ∧
      (Meets projection field .lte json ↔ x ≤ y) := by
  rw [comparing.eq_iff, comparing.gt_iff, comparing.lt_iff, comparing.gte_iff, comparing.lte_iff]
  simp only [Option.some.injEq, compare_eq_iff_eq, compare_gt_iff_gt, compare_lt_iff_lt, true_and]
  refine ⟨?_, le_iff_lt_or_eq.symm⟩
  rw [eq_comm]
  exact le_iff_lt_or_eq.symm

variable {a : Int} (exposes : Exposes projection field (.int a)) (first : SpelledInteger a)

include exposes

/-- A set with one integer is held against the integer as it is. -/
theorem meets_isIn_iff (bound : Int) :
    Meets projection field .isIn (.array [.int bound]) ↔ a = bound := by
  rw [meets_set_iff exposes, List.any_cons, List.any_nil, Bool.or_false, Json.int, Json.int,
    Json.same, Number.Numeral.same, beq_iff_eq, eq_comm]

include first

/-- **What a criterion asks of an integer, it asks of the nearest number.** -/
theorem meets_iff_rounded {test : IntegerTest} (spelled : test.Spelled) :
    Meets projection field test.operator test.value ↔ test.rounded.Holds (nearest a) := by
  have ordered : ∀ bound ∈ test.bounds, Comparing projection field (.int bound)
      (some (compare (nearest a) (nearest bound))) := by
    intro bound named
    rw [← order?_int first (spelled bound named)]
    exact exposes.comparing rfl rfl rfl
  cases test with
  | eq bound => exact (ordered bound (List.mem_singleton_self bound)).integers.1
  | gt bound => exact (ordered bound (List.mem_singleton_self bound)).integers.2.1
  | lt bound => exact (ordered bound (List.mem_singleton_self bound)).integers.2.2.1
  | gte bound => exact (ordered bound (List.mem_singleton_self bound)).integers.2.2.2.1
  | lte bound => exact (ordered bound (List.mem_singleton_self bound)).integers.2.2.2.2
  | neq bound =>
      have accepts : Accepts π field .eq (.int bound) :=
        accepts_iff.mpr ⟨exposes.allowed, _, rfl⟩
      have equal := (ordered bound (List.mem_singleton_self bound)).integers.1
      exact (exposes.neq_iff accepts).trans (not_congr equal)
  | between low high =>
      have above := (ordered low List.mem_cons_self).integers.2.2.2.1
      have below := (ordered high (List.mem_cons_of_mem _ List.mem_cons_self)).integers.2.2.2.2
      exact (exposes.between_iff rfl rfl).trans (and_congr above below)

/-- A criterion is exact for an integer unless it blurs it. -/
theorem meets_iff_holds_iff {test : IntegerTest} (spelled : test.Spelled) :
    (Meets projection field test.operator test.value ↔ test.Holds a) ↔ ¬test.Blurs a := by
  rw [meets_iff_rounded exposes first spelled]
  exact test.rounded_holds_iff a

end

/-! ## Pages -/

section

variable {α : Type}

theorem filter_eq_filter_iff {p q : α → Bool} {items : List α} :
    items.filter p = items.filter q ↔ ∀ item ∈ items, (p item = true ↔ q item = true) := by
  constructor
  · intro same item listed
    have both := congrArg (item ∈ ·) same
    simpa [List.mem_filter, listed] using both
  · intro agree
    exact List.filter_congr fun item listed => Bool.eq_iff_iff.mpr (agree item listed)

/-- Lists with the same pages are the same, as one page holds all of a list. -/
theorem pages_eq_iff {items others : List α} :
    (∀ offset limit, (items.drop offset).take limit = (others.drop offset).take limit) ↔
      items = others := by
  constructor
  · intro same
    have all := same 0 (max items.length others.length)
    rwa [List.drop_zero, List.drop_zero, List.take_of_length_le (Nat.le_max_left _ _),
      List.take_of_length_le (Nat.le_max_right _ _)] at all
  · rintro rfl offset limit
    rfl

end

theorem IntegerTest.accepts {π : Type} [Projection π] {field : String}
    (allowed : field ∈ Projection.filterable π) (test : IntegerTest) :
    Accepts π field test.operator test.value := by
  refine accepts_iff.mpr ⟨allowed, ?_⟩
  cases test with
  | eq | neq | gt | gte | lt | lte | between => exact ⟨_, rfl⟩

end Cqrs.Filter
