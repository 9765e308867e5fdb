/-
# Proofs.Json.Equality -- strict equality of JSON values, and what objects hold

Strict equality is reflexive and symmetric at every depth (`same_refl`, `same_comm`).  It is less
than being one value only because of the two zeros: a value without numbers that have a point is
`Rigid`, which is to say that nothing else is strictly equal to it.

An object made of entries holds the last entry of every key (`get?_ofEntries`), so with distinct
keys just its entries (`get?_ofEntries_iff`), and another object `Extends` it where it holds these
as well (`extends_ofEntries_iff`).
-/
import Cqrs.Json
import Mathlib.Data.List.Nodup

namespace Cqrs

set_option autoImplicit false

namespace Number.Numeral

theorem same_refl (value : Numeral) : value.same value = true := by
  cases value with
  | integer n => simp [same]
  | float x => exact x.same_refl

theorem same_comm (a b : Numeral) : a.same b = b.same a := by
  cases a with
  | integer n =>
      cases b with
      | integer m => exact Bool.beq_comm
      | float y => rfl
  | float x =>
      cases b with
      | integer m => rfl
      | float y => exact x.same_comm y

end Number.Numeral

namespace Json

/-! ## Strict equality -/

mutual

theorem same_refl : ∀ value : Json, value.same value = true
  | .null => by simp [same]
  | .bool _ => by simp [same]
  | .number value => by simp [same, value.same_refl]
  | .string _ => by simp [same]
  | .array items => by simp [same, sameItems_refl items]
  | .object entries => by simp [same, sameEntries_refl entries]

theorem sameItems_refl : ∀ items : List Json, sameItems items items = true
  | [] => by simp [sameItems]
  | item :: rest => by simp [sameItems, same_refl item, sameItems_refl rest]

theorem sameEntries_refl : ∀ entries : List (String × Json), sameEntries entries entries = true
  | [] => by simp [sameEntries]
  | (_, value) :: rest => by simp [sameEntries, same_refl value, sameEntries_refl rest]

end

mutual

theorem same_comm : ∀ a b : Json, a.same b = b.same a
  | .null, b => by cases b <;> simp [same]
  | .bool x, b => by cases b <;> simp [same, Bool.beq_comm (a := x)]
  | .number x, b => by cases b <;> simp [same, x.same_comm]
  | .string s, b => by cases b <;> simp [same, Bool.beq_comm (a := s)]
  | .array as, b => by
      cases b with
      | array bs => simp [same, sameItems_comm as bs]
      | null | bool | number | string | object => simp [same]
  | .object as, b => by
      cases b with
      | object bs => simp [same, sameEntries_comm as bs]
      | null | bool | number | string | array => simp [same]

theorem sameItems_comm : ∀ as bs : List Json, sameItems as bs = sameItems bs as
  | [], bs => by cases bs <;> simp [sameItems]
  | _ :: _, [] => by simp [sameItems]
  | a :: as, b :: bs => by simp [sameItems, same_comm a b, sameItems_comm as bs]

theorem sameEntries_comm : ∀ as bs : List (String × Json), sameEntries as bs = sameEntries bs as
  | [], bs => by cases bs <;> simp [sameEntries]
  | _ :: _, [] => by simp [sameEntries]
  | (k, a) :: as, (l, b) :: bs => by
      simp [sameEntries, same_comm a b, sameEntries_comm as bs, Bool.beq_comm (a := k)]

end

/-! ## Rigid values -/

/-- Nothing but the value itself is strictly equal to it. -/
def Rigid (value : Json) : Prop :=
  ∀ other : Json, other.same value = true → other = value

theorem rigid_string (text : String) : Rigid (.string text) := by
  intro other same
  cases other with
  | string s =>
      have texts : s = text := by simpa [Json.same] using same
      rw [texts]
  | null | bool | number | array | object => simp [Json.same] at same

theorem rigid_int (value : Int) : Rigid (.int value) := by
  intro other same
  cases other with
  | number number =>
      cases number with
      | integer n =>
          have integers : n = value := by simpa [Json.same, int, Number.Numeral.same] using same
          rw [integers, int]
      | float x => simp [Json.same, int, Number.Numeral.same] at same
  | null | bool | string | array | object => simp [Json.same, int] at same

theorem eq_of_sameEntries {entries : List (String × Json)} (rigid : ∀ entry ∈ entries, Rigid entry.2)
    {others : List (String × Json)} (same : sameEntries others entries = true) :
    others = entries := by
  induction entries generalizing others with
  | nil => cases others <;> simp_all [sameEntries]
  | cons entry rest ih =>
      cases others with
      | nil => simp [sameEntries] at same
      | cons other others =>
          obtain ⟨rigid_entry, rigid_rest⟩ := List.forall_mem_cons.mp rigid
          simp only [sameEntries, Bool.and_eq_true, beq_iff_eq] at same
          obtain ⟨⟨keys, values⟩, tails⟩ := same
          rw [ih rigid_rest tails, Prod.ext keys (rigid_entry other.2 values)]

theorem mem_insertEntry {key : String} {value : Json} {entries : List (String × Json)}
    {entry : String × Json} (listed : entry ∈ insertEntry key value entries) :
    entry = (key, value) ∨ entry ∈ entries := by
  induction entries with
  | nil => simpa [insertEntry] using listed
  | cons first rest ih =>
      unfold insertEntry at listed
      split at listed
      · rcases List.mem_cons.mp listed with rfl | later
        · exact .inl rfl
        · exact .inr (List.mem_cons_of_mem _ later)
      · split at listed
        · exact List.mem_cons.mp listed
        · rcases List.mem_cons.mp listed with rfl | later
          · exact .inr (List.mem_cons_self ..)
          · exact (ih later).imp_right (List.mem_cons_of_mem _)

theorem mem_of_mem_sorted {entries : List (String × Json)} {entry : String × Json}
    (listed : entry ∈ entries.foldl (fun sorted entry => insertEntry entry.1 entry.2 sorted) []) :
    entry ∈ entries := by
  rw [← List.mem_reverse]
  rw [List.foldl_eq_foldr_reverse] at listed
  generalize entries.reverse = newest at listed ⊢
  induction newest with
  | nil => exact listed
  | cons first rest ih =>
      rcases mem_insertEntry listed with rfl | earlier
      · exact List.mem_cons_self ..
      · exact List.mem_cons_of_mem _ (ih earlier)

/-- An object is rigid if all that it is made of is. -/
theorem rigid_ofEntries {entries : List (String × Json)} (rigid : ∀ entry ∈ entries, Rigid entry.2) :
    Rigid (ofEntries entries) := by
  intro other same
  cases other with
  | object others =>
      simp only [ofEntries, Json.same] at same
      have all := eq_of_sameEntries (fun entry listed => rigid entry (mem_of_mem_sorted listed)) same
      rw [all, ofEntries]
  | null | bool | number | string | array => simp [Json.same, ofEntries] at same

/-! ## What objects hold -/

theorem lookup_entry_cons (key : String) (entry : String × Json) (rest : List (String × Json)) :
    (entry :: rest).lookup key = if key = entry.1 then some entry.2 else rest.lookup key := by
  rw [List.lookup_cons]
  by_cases found : key = entry.1
  · simp [found]
  · rw [if_neg found, beq_eq_false_iff_ne.mpr found]

theorem lookup_insertEntry (key other : String) (value : Json) (entries : List (String × Json)) :
    (insertEntry key value entries).lookup other =
      if other = key then some value else entries.lookup other := by
  induction entries with
  | nil => exact lookup_entry_cons other (key, value) []
  | cons entry rest ih =>
      obtain ⟨held, content⟩ := entry
      unfold insertEntry
      split
      · rename_i same
        subst same
        simp only [lookup_entry_cons]
        split <;> rfl
      · rename_i apart
        split
        · exact lookup_entry_cons other (key, value) _
        · simp only [lookup_entry_cons, ih]
          by_cases found : other = key
          · simp [found, apart]
          · simp [found]

/-- The last entry of a key is the one that is held. -/
theorem get?_ofEntries (entries : List (String × Json)) (key : String) :
    (ofEntries entries).get? key = entries.reverse.lookup key := by
  rw [ofEntries, get?, List.foldl_eq_foldr_reverse]
  induction entries.reverse with
  | nil => rfl
  | cons entry rest ih => rw [List.foldr_cons, lookup_insertEntry, ih, lookup_entry_cons]

theorem lookup_iff_mem {entries : List (String × Json)} (distinct : (entries.map Prod.fst).Nodup)
    {key : String} {value : Json} : entries.lookup key = some value ↔ (key, value) ∈ entries := by
  induction entries with
  | nil => simp
  | cons entry rest ih =>
      obtain ⟨fresh, distinct⟩ := List.nodup_cons.mp distinct
      rw [lookup_entry_cons, List.mem_cons]
      split
      · rename_i found
        have absent : (key, value) ∉ rest := fun listed =>
          fresh (List.mem_map.mpr ⟨_, listed, found⟩)
        rw [or_iff_left absent, Option.some.injEq, Prod.ext_iff]
        exact ⟨fun same => ⟨found, same.symm⟩, fun both => both.2.symm⟩
      · rename_i apart
        rw [ih distinct, or_iff_right]
        rintro rfl
        exact apart rfl

/-- With distinct keys all entries are held. -/
theorem get?_ofEntries_iff {entries : List (String × Json)}
    (distinct : (entries.map Prod.fst).Nodup) {key : String} {value : Json} :
    (ofEntries entries).get? key = some value ↔ (key, value) ∈ entries := by
  have reversed : (entries.reverse.map Prod.fst).Nodup := by
    rw [List.map_reverse, List.nodup_reverse]
    exact distinct
  rw [get?_ofEntries, lookup_iff_mem reversed, List.mem_reverse]

/-- The object holds all that another one holds. -/
def Extends (whole part : Json) : Prop :=
  ∀ key value, part.get? key = some value → whole.get? key = some value

theorem Extends.refl (value : Json) : value.Extends value :=
  fun _ _ held => held

theorem extends_ofEntries_iff {whole : Json} {entries : List (String × Json)}
    (distinct : (entries.map Prod.fst).Nodup) :
    whole.Extends (ofEntries entries) ↔ ∀ entry ∈ entries, whole.get? entry.1 = some entry.2 := by
  constructor
  · intro holds entry listed
    exact holds entry.1 entry.2 ((get?_ofEntries_iff distinct).mpr listed)
  · intro each key value held
    exact each (key, value) ((get?_ofEntries_iff distinct).mp held)

end Json

end Cqrs
