/-
# Proofs.Store -- what saving does to a store

An object of a known identity takes the place of the first object with that identity and
leaves all others where they are (`place_split`, `ids_place`, `others_place`).  Look-ups find
the saved object under its own identity and the old ones under every other (`find?_save`), and
nothing under an identity that was deleted (`find?_delete`).  In a store with distinct identities a
look-up finds all that a search for the identity does (`filter_eq_toList_find?`), and the store is
told by its identities and its look-ups (`forall₂_of_find?`).

A store that was only ever saved to and deleted from (`Store.Built`) holds one object under each
identity (`Store.Built.distinct`), and no recorded events, because every save drops them
(`Store.Built.clean`).
-/
import Cqrs.Store
import Mathlib.Data.List.Forall2
import Mathlib.Data.List.Nodup

namespace Cqrs.Store

set_option autoImplicit false

variable {α : Type} [Aggregate α]

/-- The object that is found gives its place to the one that is put there. -/
theorem place_split {item held : α} {items : List α}
    (found : items.find? (fun other => Aggregate.id other == Aggregate.id item) = some held) :
    ∃ before after, items = before ++ held :: after ∧
      place item items = before ++ item :: after ∧ Aggregate.id held = Aggregate.id item := by
  induction items with
  | nil => cases found
  | cons other rest ih =>
      by_cases same : Aggregate.id other = Aggregate.id item
      · have here : other = held := by simpa [same] using found
        subst here
        exact ⟨[], rest, rfl, by simp [place, same], same⟩
      · have later : rest.find? (fun other => Aggregate.id other == Aggregate.id item) =
            some held := by simpa [same] using found
        obtain ⟨before, after, split, placed, identity⟩ := ih later
        refine ⟨other :: before, after, by rw [split]; rfl, ?_, identity⟩
        simp only [place, if_neg same, placed, List.cons_append]

theorem find?_place (item : α) (id : Identifier (Aggregate.kind α)) (items : List α) :
    (place item items).find? (fun other => Aggregate.id other == id) =
      if Aggregate.id item = id then some item
      else items.find? fun other => Aggregate.id other == id := by
  induction items with
  | nil =>
      by_cases sought : Aggregate.id item = id <;> simp [place, sought]
  | cons other rest ih =>
      by_cases same : Aggregate.id other = Aggregate.id item
      · by_cases sought : Aggregate.id item = id
        · simp [place, same, sought]
        · simp [place, same, sought]
      · by_cases sought : Aggregate.id item = id
        · subst sought
          simp [place, same, ih]
        · simp [place, same, ih, sought, List.find?_cons]

theorem find?_save (store : Store α) (item : α) (id : Identifier (Aggregate.kind α)) :
    (store.save item).find? id =
      if Aggregate.id (Aggregate.withoutEvents item) = id then some (Aggregate.withoutEvents item)
      else store.find? id :=
  find?_place _ id store.items

theorem mem_place {item other : α} {items : List α} (member : other ∈ place item items) :
    other = item ∨ other ∈ items := by
  induction items with
  | nil => exact Or.inl (List.mem_singleton.mp member)
  | cons held rest ih =>
      by_cases same : Aggregate.id held = Aggregate.id item
      · rw [place, if_pos same] at member
        rcases List.mem_cons.mp member with here | there
        · exact Or.inl here
        · exact Or.inr (List.mem_cons_of_mem _ there)
      · rw [place, if_neg same] at member
        rcases List.mem_cons.mp member with rfl | later
        · exact Or.inr (List.mem_cons_self ..)
        · exact (ih later).imp_right (List.mem_cons_of_mem _)

theorem mem_of_find? {store : Store α} {id : Identifier (Aggregate.kind α)} {item : α}
    (found : store.find? id = some item) : item ∈ store.items ∧ Aggregate.id item = id :=
  ⟨List.mem_of_find?_eq_some found, by simpa using List.find?_some found⟩

/-- The identities of a store stay where they are, and a new one comes last. -/
theorem ids_place (item : α) (items : List α) :
    (place item items).map Aggregate.id =
      if Aggregate.id item ∈ items.map Aggregate.id then items.map Aggregate.id
      else items.map Aggregate.id ++ [Aggregate.id item] := by
  induction items with
  | nil => rfl
  | cons held rest ih =>
      by_cases same : Aggregate.id held = Aggregate.id item
      · rw [place, if_pos same, if_pos]
        · rw [List.map_cons, List.map_cons, same]
        · rw [List.map_cons, same]
          exact List.mem_cons_self ..
      · rw [place, if_neg same, List.map_cons, ih]
        by_cases later : Aggregate.id item ∈ rest.map Aggregate.id
        · rw [if_pos later, if_pos]
          · rfl
          · exact List.mem_cons_of_mem _ later
        · rw [if_neg later, if_neg]
          · rfl
          · rw [List.map_cons, List.mem_cons]
            exact not_or.mpr ⟨Ne.symm same, later⟩

theorem nodup_place {items : List α} (distinct : (items.map Aggregate.id).Nodup) (item : α) :
    ((place item items).map Aggregate.id).Nodup := by
  rw [ids_place]
  split
  · exact distinct
  · rename_i fresh
    rw [← List.concat_eq_append]
    exact distinct.concat fresh

/-- Saving an object leaves all that have other identities as and where they are. -/
theorem others_place (item : α) (items : List α) :
    (place item items).filter (fun other => Aggregate.id other ≠ Aggregate.id item) =
      items.filter fun other => Aggregate.id other ≠ Aggregate.id item := by
  induction items with
  | nil => simp [place]
  | cons held rest ih =>
      by_cases same : Aggregate.id held = Aggregate.id item
      · simp [place, same]
      · simp only [place, if_neg same, List.filter_cons, ih]

theorem find?_delete (store : Store α) (id other : Identifier (Aggregate.kind α)) :
    (store.delete id).find? other = if id = other then none else store.find? other := by
  obtain ⟨items⟩ := store
  unfold delete find?
  rw [List.find?_filter]
  by_cases same : id = other
  · subst same
    simp
  · rw [if_neg same]
    congr 1
    funext item
    by_cases sought : Aggregate.id item = other
    · simp [sought, Ne.symm same]
    · simp [sought]

/-- With distinct identities, an object that is stored is the one that is found. -/
theorem find?_of_mem {items : List α} (distinct : (items.map Aggregate.id).Nodup) {item : α}
    (member : item ∈ items) :
    items.find? (fun other => Aggregate.id other == Aggregate.id item) = some item := by
  induction items with
  | nil => cases member
  | cons held rest ih =>
      obtain ⟨once, later⟩ := List.nodup_cons.mp distinct
      rcases List.mem_cons.mp member with rfl | inRest
      · simp
      · have apart : Aggregate.id held ≠ Aggregate.id item := by
          intro same
          rw [same] at once
          exact once (List.mem_map_of_mem inRest)
        simp [apart, ih later inRest]

/-- With distinct identities, what is found under one is all that has it. -/
theorem filter_eq_toList_find? {items : List α} (distinct : (items.map Aggregate.id).Nodup)
    (id : Identifier (Aggregate.kind α)) :
    items.filter (fun other => Aggregate.id other == id) =
      (items.find? fun other => Aggregate.id other == id).toList := by
  induction items with
  | nil => rfl
  | cons held rest ih =>
      obtain ⟨once, later⟩ := List.nodup_cons.mp distinct
      by_cases same : Aggregate.id held = id
      · have none : rest.filter (fun other => Aggregate.id other == id) = [] := by
          refine List.filter_eq_nil_iff.mpr fun other member alike => ?_
          rw [same, ← beq_iff_eq.mp alike] at once
          exact once (List.mem_map_of_mem member)
        simp [same, none]
      · simp [same, ih later]

/-- Stores with the same distinct identities in the same order are related object by object, if
what they find is. -/
theorem forall₂_of_find? {R : α → α → Prop} {one two : Store α}
    (ids : one.items.map Aggregate.id = two.items.map Aggregate.id)
    (distinct : (one.items.map Aggregate.id).Nodup)
    (related : ∀ id left right, one.find? id = some left → two.find? id = some right →
      R left right) : List.Forall₂ R one.items two.items := by
  have lengths : one.items.length = two.items.length := by
    simpa using congrArg List.length ids
  refine List.forall₂_iff_get.mpr ⟨lengths, fun index first second => ?_⟩
  have same : Aggregate.id (one.items.get ⟨index, first⟩) =
      Aggregate.id (two.items.get ⟨index, second⟩) := by
    simpa [first, second] using congrArg (·[index]?) ids
  have sought : two.find? (Aggregate.id (two.items.get ⟨index, second⟩)) =
      some (two.items.get ⟨index, second⟩) :=
    find?_of_mem (ids ▸ distinct) (List.get_mem ..)
  refine related _ _ _ (find?_of_mem distinct (List.get_mem ..)) ?_
  rw [same]
  exact sought

/-- Stores as they come about: by saving to and deleting from one that was empty. -/
inductive Built : Store α → Prop
  | empty : Built .empty
  | save {store : Store α} (built : Built store) (item : α) : Built (store.save item)
  | delete {store : Store α} (built : Built store) (id : Identifier (Aggregate.kind α)) :
      Built (store.delete id)

/-- The identities of a built store are distinct. -/
theorem Built.distinct {store : Store α} (built : store.Built) :
    (store.items.map Aggregate.id).Nodup := by
  induction built with
  | empty => exact List.nodup_nil
  | save built item ih => exact nodup_place ih _
  | delete built id ih => exact ih.sublist (List.filter_sublist.map _)

/-- Every object of a built store is one without its recorded events. -/
theorem Built.clean {store : Store α} (built : store.Built) {item : α}
    (member : item ∈ store.items) : ∃ saved, item = Aggregate.withoutEvents saved := by
  induction built with
  | empty => cases member
  | save built saved ih =>
      rcases mem_place member with rfl | before
      · exact ⟨saved, rfl⟩
      · exact ih before
  | delete built id ih => exact ih (List.mem_filter.mp member).1

end Cqrs.Store
