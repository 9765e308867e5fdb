/-
# Proofs.Filter.Paging -- pages of a filter, and walks through them

A filter selects the projections that meet all its criteria and leaves them in their order
(`Selects`); it gives them out in pages.  A page is told position by position
(`getElem?_page`), two pages that meet are one (`page_append`), and whoever asks for page after
page until one is empty (`Walks`) has been given every selected projection, once and in order
(`walks_iff`).  Which criteria there are decides, and neither their order nor how often each of
them is given (`page_congr`).

Offsets and limits are any numbers, and no sum of them is ever needed to find a page.
-/
import Cqrs.Bank.Projection

namespace Cqrs.Filter

set_option autoImplicit false

variable {π : Type} [Projection π]

/-! ## What is selected -/

/-- The rows are the items that meet all criteria, in the order of the items. -/
inductive Selects (criteria : List (Criterion π)) : List π → List π → Prop
  | nil : Selects criteria [] []
  | kept {item : π} {items rows : List π} (met : ∀ criterion ∈ criteria, criterion.isMetBy item)
      (rest : Selects criteria items rows) : Selects criteria (item :: items) (item :: rows)
  | passed {item : π} {items rows : List π} {criterion : Criterion π}
      (member : criterion ∈ criteria) (unmet : ¬criterion.isMetBy item)
      (rest : Selects criteria items rows) : Selects criteria (item :: items) rows

theorem satisfiesAll_iff (item : π) (criteria : List (Criterion π)) :
    satisfiesAll item criteria = true ↔ ∀ criterion ∈ criteria, criterion.isMetBy item :=
  List.all_eq_true

/-- Filtering selects, and nothing else is selected. -/
theorem selects_iff {criteria : List (Criterion π)} {items rows : List π} :
    Selects criteria items rows ↔ rows = items.filter fun item => satisfiesAll item criteria := by
  constructor
  · intro selects
    induction selects with
    | nil => rfl
    | kept met _ ih => rw [List.filter_cons, if_pos ((satisfiesAll_iff _ _).mpr met), ih]
    | passed member unmet _ ih =>
        rw [List.filter_cons, if_neg fun all => unmet ((satisfiesAll_iff _ _).mp all _ member), ih]
  · rintro rfl
    induction items with
    | nil => exact .nil
    | cons item items ih =>
        by_cases met : ∀ criterion ∈ criteria, criterion.isMetBy item
        · rw [List.filter_cons, if_pos ((satisfiesAll_iff _ _).mpr met)]
          exact .kept met ih
        · rw [List.filter_cons, if_neg fun all => met ((satisfiesAll_iff _ _).mp all)]
          simp only [Classical.not_forall] at met
          obtain ⟨criterion, member, unmet⟩ := met
          exact .passed member unmet ih

/-- Without criteria, all items are selected. -/
theorem selects_nil (items : List π) : Selects [] items items :=
  selects_iff.mpr (List.filter_eq_self.mpr fun _ _ => rfl).symm

/-! ## Pages -/

section

variable {criteria : List (Criterion π)} {items rows : List π}

theorem page_eq (selects : Selects criteria items rows) (offset limit : Nat) :
    page items offset limit criteria = (rows.drop offset).take limit := by
  rw [selects_iff.mp selects]
  rfl

/-- A page holds the rows from its offset on, as many as its limit. -/
theorem getElem?_page (selects : Selects criteria items rows) (offset limit position : Nat) :
    (page items offset limit criteria)[position]? =
      if position < limit then rows[offset + position]? else none := by
  rw [page_eq selects, List.getElem?_take, List.getElem?_drop]

/-- Two pages that meet are one. -/
theorem page_append (items : List π) (criteria : List (Criterion π)) (offset first second : Nat) :
    page items offset first criteria ++ page items (offset + first) second criteria =
      page items offset (first + second) criteria := by
  rw [page, page, page, List.take_add, List.drop_drop]

/-- Criteria that all items meet alike give the same pages. -/
theorem page_of_alike {others : List (Criterion π)}
    (alike : ∀ item : π, satisfiesAll item others = satisfiesAll item criteria) (items : List π)
    (offset limit : Nat) : page items offset limit others = page items offset limit criteria := by
  simp only [page, alike]

/-- Order and repetition of the criteria do not matter. -/
theorem page_congr {others : List (Criterion π)}
    (same : ∀ criterion, criterion ∈ others ↔ criterion ∈ criteria) (items : List π)
    (offset limit : Nat) : page items offset limit others = page items offset limit criteria := by
  refine page_of_alike (fun item => ?_) items offset limit
  rw [Bool.eq_iff_iff, satisfiesAll_iff, satisfiesAll_iff]
  exact forall_congr' fun criterion => imp_congr_left (same criterion)

/-- A criterion may stand for one that is met alike, among any other criteria. -/
theorem page_replace {one other : Criterion π}
    (alike : ∀ item, one.isMetBy item = other.isMetBy item) (items : List π) (offset limit : Nat)
    (before after : List (Criterion π)) :
    page items offset limit (before ++ one :: after) =
      page items offset limit (before ++ other :: after) := by
  refine page_of_alike (fun item => ?_) items offset limit
  simp only [satisfiesAll, List.all_append, List.all_cons, Specification.isSatisfiedBy, alike]

/-- A page of what meets one criterion. -/
theorem page_singleton (items : List π) (offset limit : Nat) (criterion : Criterion π) :
    page items offset limit [criterion] =
      ((items.filter fun item => criterion.isMetBy item).drop offset).take limit := by
  have alone : ∀ item : π, satisfiesAll item [criterion] = criterion.isMetBy item :=
    fun item => Bool.and_true _
  simp only [page, alone]

/-! ## Walks -/

/-- Page after page of one size, up to one that is empty, put together. -/
inductive Walks (ask : Nat → List π) (size : Nat) : Nat → List π → Prop
  | done {offset : Nat} (nothing : ask offset = []) : Walks ask size offset []
  | more {offset : Nat} {rest : List π} (something : ask offset ≠ [])
      (onward : Walks ask size (offset + size) rest) : Walks ask size offset (ask offset ++ rest)

/-- The rows from an offset on are the page there and the rows after it. -/
theorem drop_eq_page_append (selects : Selects criteria items rows) (offset size : Nat) :
    rows.drop offset = page items offset size criteria ++ rows.drop (offset + size) := by
  rw [page_eq selects, ← List.drop_drop, List.take_append_drop]

/-- A page of some size is empty only beyond all rows. -/
theorem page_eq_nil_iff (selects : Selects criteria items rows) {size : Nat} (positive : 1 ≤ size)
    (offset : Nat) : page items offset size criteria = [] ↔ rows.length ≤ offset := by
  rw [page_eq selects, List.take_eq_nil_iff, List.drop_eq_nil_iff]
  omega

theorem walks_drop (selects : Selects criteria items rows) {size : Nat} (positive : 1 ≤ size)
    (offset : Nat) :
    Walks (fun offset => page items offset size criteria) size offset (rows.drop offset) := by
  -- Every page that is not empty leaves fewer rows.
  induction left : rows.length - offset using Nat.strongRecOn generalizing offset with
  | ind left ih =>
      by_cases beyond : rows.length ≤ offset
      · rw [List.drop_eq_nil_iff.mpr beyond]
        exact .done ((page_eq_nil_iff selects positive offset).mpr beyond)
      · rw [drop_eq_page_append selects offset size]
        refine .more (fun nothing => beyond ?_) (ih _ (by omega) (offset + size) rfl)
        exact (page_eq_nil_iff selects positive offset).mp nothing

/-- **A walk through the pages gives the rows from where it begins.** -/
theorem walks_iff (selects : Selects criteria items rows) {size : Nat} (positive : 1 ≤ size)
    {offset : Nat} {walked : List π} :
    Walks (fun offset => page items offset size criteria) size offset walked ↔
      walked = rows.drop offset := by
  constructor
  · intro walks
    induction walks with
    | done nothing =>
        exact (List.drop_eq_nil_iff.mpr ((page_eq_nil_iff selects positive _).mp nothing)).symm
    | more _ _ ih => rw [drop_eq_page_append selects _ size, ih]
  · rintro rfl
    exact walks_drop selects positive offset

end

/-- **Paging walks the matches exactly.**  The items that meet all criteria are one row of items, in
their order.  A page is what stands in this row from its offset on, up to its limit, whatever
offset and limit are.  Whoever walks through pages of any size that is not zero until one is empty
is given this row, and so each match once and in order; two pages that meet are one page.  Only
which criteria there are matters, and without any criterion all items match. -/
theorem pages_walk_matches (items : List π) (criteria : List (Criterion π)) :
    ∃ rows, (∀ others, Selects criteria items others ↔ others = rows) ∧
      (∀ offset limit position, (page items offset limit criteria)[position]? =
        if position < limit then rows[offset + position]? else none) ∧
      (∀ size, 1 ≤ size → ∀ walked,
        Walks (fun offset => page items offset size criteria) size 0 walked ↔ walked = rows) ∧
      (∀ offset first second,
        page items offset first criteria ++ page items (offset + first) second criteria =
          page items offset (first + second) criteria) ∧
      (∀ others : List (Criterion π), (∀ criterion, criterion ∈ others ↔ criterion ∈ criteria) →
        ∀ offset limit, page items offset limit others = page items offset limit criteria) ∧
      (criteria = [] → rows = items) := by
  have selects : Selects criteria items (items.filter fun item => satisfiesAll item criteria) :=
    selects_iff.mpr rfl
  refine ⟨_, fun others => selects_iff, fun offset limit position => getElem?_page selects _ _ _,
    fun size positive walked => walks_iff selects positive, page_append items criteria,
    fun others same => page_congr same items, ?_⟩
  rintro rfl
  exact (selects_iff.mp (selects_nil items)).symm

/-- Accounts in two currencies, one of them with nothing. -/
def mixedAccounts : List Bank.AccountProjection :=
  [⟨"acc-a", 100, "USD", []⟩, ⟨"acc-b", 100, "EUR", []⟩, ⟨"acc-c", 0, "USD", []⟩,
    ⟨"acc-d", 300, "USD", []⟩, ⟨"acc-e", 200, "USD", []⟩]

def inDollars : Criterion Bank.AccountProjection :=
  ⟨"currency", .eq, .scalar (.string "USD"), by decide, rfl⟩

def holdsHundred : Criterion Bank.AccountProjection :=
  ⟨"balance", .gte, .scalar (.int 100), by decide, rfl⟩

/-- A walk in pages of two gives the three matches, the last page being short, and a criterion may
be given twice. -/
theorem pages_walk_matches_mixedAccounts :
    1 ≤ 2 ∧
      Walks (fun offset => page mixedAccounts offset 2 [inDollars, holdsHundred]) 2 0
        [⟨"acc-a", 100, "USD", []⟩, ⟨"acc-d", 300, "USD", []⟩, ⟨"acc-e", 200, "USD", []⟩] ∧
      page mixedAccounts 2 2 [inDollars, holdsHundred] = [⟨"acc-e", 200, "USD", []⟩] ∧
      page mixedAccounts 2 2 [holdsHundred, inDollars, holdsHundred] =
        page mixedAccounts 2 2 [inDollars, holdsHundred] := by
  obtain ⟨rows, selects, -, walks, -, same, -⟩ :=
    pages_walk_matches mixedAccounts [inDollars, holdsHundred]
  have found : [⟨"acc-a", 100, "USD", []⟩, ⟨"acc-d", 300, "USD", []⟩, ⟨"acc-e", 200, "USD", []⟩] =
      rows := (selects _).mp (selects_iff.mpr (by decide +kernel))
  refine ⟨by decide, (walks 2 (by decide) _).mpr found, by decide +kernel, same _ ?_ 2 2⟩
  simp [or_comm]

end Cqrs.Filter
