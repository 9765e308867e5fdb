/-
# Proofs.Bank.Retrieval -- an account is looked up and searched for alike

The projection of an account is had in two ways: by a look-up of its identifier, and by a search
through all accounts with a criterion that only this identifier meets (`Pins`).  The search holds
texts against texts, and these are never coerced, so it picks out the accounts with the identifier
(`Pins.meets_iff`).  There is one at most, since accounts are stored by saving and deleting only,
and it is the one that the look-up finds (`filterProjections_pins`).

A criterion says the same of a field under each of its names (`Filter.isMetBy_alias`).
-/
import Cqrs.Proofs.Bank.ReadSide
import Cqrs.Proofs.Filter.Agreement
import Cqrs.Proofs.Filter.Paging
import Cqrs.Proofs.Filter.Shape

namespace Cqrs

set_option autoImplicit false

namespace Filter

/-- The operators and values that ask for one text: equality, a set and a range of nothing else. -/
inductive Pins (text : String) : Operator → Json → Prop
  | eq : Pins text .eq (.string text)
  | isIn : Pins text .isIn (.array [.string text])
  | between : Pins text .between (.array [.string text, .string text])

section

variable {π : Type} [Projection π] {operator : Operator} {value : Json}

theorem Pins.accepts {text : String} (pins : Pins text operator value) {field : String}
    (allowed : field ∈ Projection.filterable π) : Accepts π field operator value := by
  refine accepts_iff.mpr ⟨allowed, ?_⟩
  cases pins with
  | eq | isIn | between => exact ⟨_, rfl⟩

/-- **A text that is exposed is asked for by itself alone**, whatever it spells. -/
theorem Pins.meets_iff {text : String} (pins : Pins text operator value) {projection : π}
    {field held : String} (exposes : Exposes projection field (.string held)) :
    Meets projection field operator value ↔ held = text := by
  have ordered : order? (.string held) (.string text) =
      some (orderText held.toList text.toList) := rfl
  have same : orderText held.toList text.toList = .eq ↔ held = text := by
    rw [orderText_eq_iff, String.toList_inj]
  cases pins with
  | eq =>
      rw [(exposes.comparing rfl rfl rfl).eq_iff, ordered, Option.some.injEq, same]
  | isIn =>
      rw [meets_set_iff exposes, List.any_cons, List.any_nil, Bool.or_false, Json.same, beq_iff_eq,
        eq_comm]
  | between =>
      -- between two bounds that are one text there is nothing but this text
      rw [meets_range_iff exposes, ordered, ← same]
      cases orderText held.toList text.toList <;> simp

variable {first second : String}

/-- Fields that may both be named refuse the same values with the same error. -/
theorem make_error_alias (one : first ∈ Projection.filterable π)
    (other : second ∈ Projection.filterable π) (error : AppError) :
    Criterion.make π first operator value = .error error ↔
      Criterion.make π second operator value = .error error := by
  rw [Criterion.make_error_iff, Criterion.make_error_iff]
  simp only [one, other, not_true, false_and]

/-- Names under which every projection has the same value are one to a criterion. -/
theorem isMetBy_alias {one other : Criterion π}
    (same : ∀ projection : π, Projection.field? projection first =
      Projection.field? projection second)
    (made : Criterion.make π first operator value = .ok one)
    (again : Criterion.make π second operator value = .ok other) (projection : π) :
    one.isMetBy projection = other.isMetBy projection := by
  obtain ⟨named, operated, shaped⟩ := Criterion.make_eq_ok_iff.mp made
  obtain ⟨otherNamed, otherOperated, otherShaped⟩ := Criterion.make_eq_ok_iff.mp again
  have alike : one.value = other.value := Except.ok.inj (shaped.symm.trans otherShaped)
  rw [Bool.eq_iff_iff, Criterion.isMetBy, Criterion.isMetBy, Criterion.matchesField_iff,
    Criterion.matchesField_iff, named, otherNamed, same, operated, otherOperated, alike]

end

end Filter

namespace Bank

open Cqrs.Filter (Projection Exposes Criterion Operator Pins)

theorem AccountProjection.exposes_id (projection : AccountProjection) :
    Exposes projection "id" (.string projection.id) where
  allowed := by decide
  held := rfl
  present := nofun

theorem AccountProjection.field?_balance (projection : AccountProjection) :
    Projection.field? projection "balance" = Projection.field? projection "balanceAmount" :=
  rfl

/-- **A search for one identifier gives the pages of what its look-up finds.** -/
theorem filterProjections_pins {store : Store Account}
    (distinct : (store.items.map Aggregate.id).Nodup) {id : AccountId} {operator : Operator}
    {value : Json} (pins : Pins id.text operator value) {criterion : Criterion AccountProjection}
    (made : Criterion.make AccountProjection "id" operator value = .ok criterion)
    (offset limit : Nat) :
    filterProjections store offset limit [criterion] =
      (((store.find? id).map AccountProjection.ofAccount).toList.drop offset).take limit := by
  have own : ∀ account : Account,
      criterion.isMetBy (.ofAccount account) = (Aggregate.id account == id) := by
    intro account
    rw [Bool.eq_iff_iff, ← Filter.meets_iff_isMetBy made, beq_iff_eq,
      pins.meets_iff (AccountProjection.exposes_id _)]
    exact ⟨fun same => id_of_text same rfl, fun same => congrArg Identifier.text same⟩
  rw [filterProjections, Filter.page_singleton, List.filter_map]
  simp only [Function.comp_def, own]
  rw [Store.filter_eq_toList_find? distinct, Option.toList_map]
  rfl

/-- What is looked up is the projection of the stored account with the identifier. -/
theorem find?_map_eq_some_iff {store : Store Account}
    (distinct : (store.items.map Aggregate.id).Nodup) (id : AccountId)
    (projection : AccountProjection) :
    (store.find? id).map AccountProjection.ofAccount = some projection ↔
      ∃ account ∈ store.items, account.id = id ∧ projection = .ofAccount account := by
  constructor
  · intro found
    obtain ⟨account, held, rfl⟩ := Option.map_eq_some_iff.mp found
    obtain ⟨member, own⟩ := Store.mem_of_find? held
    exact ⟨account, member, own, rfl⟩
  · rintro ⟨account, member, rfl, rfl⟩
    have held : store.find? account.id = some account := Store.find?_of_mem distinct member
    rw [held]
    rfl

/-- Without criteria, all stored accounts are given out, each as its look-up gives it. -/
theorem filterProjections_nil {store : Store Account}
    (distinct : (store.items.map Aggregate.id).Nodup) {limit : Nat}
    (enough : store.items.length ≤ limit) :
    (filterProjections store 0 limit []).map (fun projection => Except.ok (some projection)) =
      store.items.map fun account => getProjection store account.id.text := by
  have all : filterProjections store 0 limit [] = store.items.map .ofAccount := by
    rw [filterProjections, Filter.page_eq (Filter.selects_nil _), List.drop_zero]
    exact List.take_of_length_le (by simpa using enough)
  rw [all, List.map_map]
  refine List.map_congr_left fun account member => ?_
  have held : store.find? account.id = some account := Store.find?_of_mem distinct member
  rw [getProjection_text, held]
  rfl

/-- **Look-up and search agree.**  After any saves, deletes and orders, ask for an account by its
identifier.  The look-up is answered, with the projection of the account that is stored under the
identifier if there is one.  Equality with the text of the identifier, the set of it and the range
of nothing else are criteria, and a first page by one of them is what the look-up found, while any
later one is empty.  Without criteria, a page that is large enough is all stored accounts in their
order, each as its look-up gives it.  And a balance is found by either of its names: they are
refused with the same error, and give the same pages, whatever else is asked for. -/
theorem lookup_agrees_with_search (depth : Nat) (deeds : List Deed) (broker : Broker application)
    (staffed : Staffed broker) (built : broker.state.accounts.Built) :
    let store := (Deed.carryOutAll depth deeds broker).state.accounts
    (∀ id : AccountId, ∃ found, getProjection store id.text = .ok found ∧
      (∀ projection, found = some projection ↔
        ∃ account ∈ store.items, account.id = id ∧ projection = .ofAccount account) ∧
      ∀ operator value, Pins id.text operator value → ∃ criterion,
        Criterion.make AccountProjection "id" operator value = .ok criterion ∧
        (∀ limit, 1 ≤ limit → filterProjections store 0 limit [criterion] = found.toList) ∧
        ∀ offset limit, 1 ≤ offset → filterProjections store offset limit [criterion] = []) ∧
    (∀ limit, store.items.length ≤ limit →
      (filterProjections store 0 limit []).map (fun projection => .ok (some projection)) =
        store.items.map fun account => getProjection store account.id.text) ∧
    ∀ operator value,
      (∀ error, Criterion.make AccountProjection "balance" operator value = .error error ↔
        Criterion.make AccountProjection "balanceAmount" operator value = .error error) ∧
      ∀ one other, Criterion.make AccountProjection "balance" operator value = .ok one →
        Criterion.make AccountProjection "balanceAmount" operator value = .ok other →
        ∀ offset limit before after,
          filterProjections store offset limit (before ++ one :: after) =
            filterProjections store offset limit (before ++ other :: after) := by
  intro store
  have distinct : (store.items.map Aggregate.id).Nodup :=
    (Deed.carryOutAll_built depth deeds staffed built).distinct
  refine ⟨fun id => ⟨_, getProjection_text store id, find?_map_eq_some_iff distinct id, ?_⟩,
    fun limit => filterProjections_nil distinct, fun operator value => ⟨?_, ?_⟩⟩
  · intro operator value pins
    obtain ⟨criterion, made⟩ : Filter.Accepts AccountProjection "id" operator value :=
      pins.accepts (by decide)
    have pages := filterProjections_pins distinct pins made
    have single : ((store.find? id).map AccountProjection.ofAccount).toList.length ≤ 1 := by
      cases store.find? id <;> simp
    refine ⟨criterion, made, fun limit positive => ?_, fun offset limit positive => ?_⟩
    · rw [pages, List.drop_zero]
      exact List.take_of_length_le (by omega)
    · rw [pages, List.drop_eq_nil_of_le (by omega), List.take_nil]
  · exact Filter.make_error_alias (by decide) (by decide)
  · intro one other made again offset limit before after
    have alike := Filter.isMetBy_alias AccountProjection.field?_balance made again
    exact Filter.page_replace alike _ _ _ _ _

/-- The criterion that an account has an identifier between a text and itself. -/
def pinnedTo (text : String) : Criterion AccountProjection :=
  ⟨"id", .between, .range (.string text) (.string text), by decide, rfl⟩

/-- In the small bank the account that was opened is found both ways with what was paid into it,
the one that was removed is found neither way, and two accounts are listed. -/
theorem lookup_agrees_with_search_smallBank :
    let store := smallBankAfter.state.accounts
    Staffed (assemble smallBank) ∧ (assemble smallBank).state.accounts.Built ∧
      (filterProjections store 0 1 [pinnedTo "acc-c"]).map (·.balanceAmount) = [30] ∧
      (∃ found, getProjection store "acc-c" = .ok found ∧
        filterProjections store 0 1 [pinnedTo "acc-c"] = found.toList) ∧
      filterProjections store 0 1 [pinnedTo "acc-a"] = [] ∧
      getProjection store "acc-a" = .ok none ∧
      (filterProjections store 0 2 []).map (fun projection => Except.ok (some projection)) =
        store.items.map fun account => getProjection store account.id.text := by
  intro store
  have built : (assemble smallBank).state.accounts.Built := .save (.save .empty _) _
  obtain ⟨each, all, -⟩ := lookup_agrees_with_search 1 smallDeeds (assemble smallBank)
    (assemble_staffed smallBank) built
  have alike : ∀ id : AccountId, ∃ found, getProjection store id.text = .ok found ∧
      filterProjections store 0 1 [pinnedTo id.text] = found.toList := by
    intro id
    obtain ⟨found, looked, -, searched⟩ := each id
    obtain ⟨_, ⟨⟩, first, -⟩ := searched _ _ .between
    exact ⟨found, looked, first 1 (by decide)⟩
  have gone : filterProjections store 0 1 [pinnedTo "acc-a"] = [] := by decide +kernel
  refine ⟨assemble_staffed smallBank, built, by decide +kernel, alike ⟨"acc-c", by decide⟩, gone,
    ?_, all 2 (by decide +kernel)⟩
  obtain ⟨found, looked, first⟩ := alike ⟨"acc-a", by decide⟩
  rw [gone] at first
  cases found with
  | none => exact looked
  | some => cases first

end Bank

end Cqrs
