/-
# Proofs.Declaration.Derives -- merged derives lose no name and keep what came first

Of paths with one name a list of derives keeps the first.  Which paths are kept, and in which order,
is settled by names alone: the names are those that occur, each where it occurs first, and each of
them stands for the first path that has it (`KeepsFirst`, `keepsFirst_iff`).

What was seen before counts as a set (`firstByKey_congr`), so a row of paths can be gone through in
two parts (`firstByKey_append`), and going through what was kept already changes nothing
(`firstByKey_firstByKey`).  Merging depends on the derived paths in order and on the other
attributes in order, and on nothing else (`mergeDerives_congr`): not on how the paths are spread
over attributes nor on what stands between these (`Rearranged`).
-/
import Cqrs.Declaration.Attribute
import Mathlib.Data.List.Nodup
import Mathlib.Logic.Relation

namespace Cqrs.Declaration

set_option autoImplicit false

/-! ## The first path of each name -/

/-- The names of the kept paths are those of all paths, each where it occurs first, and each kept
path is the first of its name. -/
structure KeepsFirst (paths kept : List Path) : Prop where
  names : kept.map Path.key = (paths.map Path.key).eraseDups
  first : ∀ path ∈ kept, paths.find? (·.key == path.key) = some path

theorem firstByKey_of_mem {seen : List String} {path : Path} (known : path.key ∈ seen)
    (rest : List Path) : firstByKey seen (path :: rest) = firstByKey seen rest :=
  if_pos known

theorem firstByKey_of_notMem {seen : List String} {path : Path} (fresh : path.key ∉ seen)
    (rest : List Path) :
    firstByKey seen (path :: rest) = path :: firstByKey (path.key :: seen) rest :=
  if_neg fresh

theorem map_key_firstByKey (seen : List String) (paths : List Path) :
    (firstByKey seen paths).map Path.key = ((paths.map Path.key).removeAll seen).eraseDups := by
  induction paths generalizing seen with
  | nil => rfl
  | cons path rest ih =>
      by_cases known : path.key ∈ seen
      · rw [firstByKey_of_mem known, ih]
        simp [List.removeAll, known]
      · rw [firstByKey_of_notMem known, List.map_cons, ih]
        have later : (rest.map Path.key).removeAll (path.key :: seen) =
            ((rest.map Path.key).removeAll seen).filter fun name => !name == path.key := by
          rw [List.removeAll_cons, List.removeAll, List.removeAll, List.filter_filter,
            List.filter_filter]
          exact List.filter_congr fun name _ => Bool.and_comm ..
        have front : ((path :: rest).map Path.key).removeAll seen =
            path.key :: (rest.map Path.key).removeAll seen :=
          List.filter_cons_of_pos (by simpa using known)
        rw [later, front, List.eraseDups_cons]

/-- What is kept was not seen before and is the first of its name. -/
theorem first_of_mem_firstByKey {seen : List String} {paths : List Path} {path : Path}
    (kept : path ∈ firstByKey seen paths) :
    path.key ∉ seen ∧ paths.find? (·.key == path.key) = some path := by
  induction paths generalizing seen with
  | nil => cases kept
  | cons front rest ih =>
      by_cases known : front.key ∈ seen
      · rw [firstByKey_of_mem known] at kept
        obtain ⟨fresh, found⟩ := ih kept
        have apart : front.key ≠ path.key := fun same => fresh (same ▸ known)
        exact ⟨fresh, by simp [apart, found]⟩
      · rw [firstByKey_of_notMem known, List.mem_cons] at kept
        rcases kept with rfl | later
        · exact ⟨known, by simp⟩
        · obtain ⟨fresh, found⟩ := ih later
          rw [List.mem_cons, not_or] at fresh
          obtain ⟨apart, fresh⟩ := fresh
          exact ⟨fresh, by simp [Ne.symm apart, found]⟩

theorem nodup_firstByKey (seen : List String) (paths : List Path) :
    ((firstByKey seen paths).map Path.key).Nodup := by
  induction paths generalizing seen with
  | nil => exact List.nodup_nil
  | cons path rest ih =>
      by_cases known : path.key ∈ seen
      · rw [firstByKey_of_mem known]
        exact ih seen
      · rw [firstByKey_of_notMem known, List.map_cons, List.nodup_cons]
        refine ⟨?_, ih _⟩
        rintro again
        obtain ⟨other, kept, same⟩ := List.mem_map.mp again
        exact (first_of_mem_firstByKey kept).1 (same ▸ List.mem_cons_self ..)

theorem KeepsFirst.eq_filterMap {paths kept : List Path} (keeps : KeepsFirst paths kept) :
    kept = (paths.map Path.key).eraseDups.filterMap fun name => paths.find? (·.key == name) := by
  rw [← keeps.names, List.filterMap_map]
  symm
  calc kept.filterMap ((fun name => paths.find? (·.key == name)) ∘ Path.key)
      = kept.filterMap some := List.filterMap_congr keeps.first
    _ = kept := List.filterMap_some

/-- **The first path of each name** is what is kept, and nothing else is. -/
theorem keepsFirst_iff {paths kept : List Path} :
    KeepsFirst paths kept ↔ kept = firstByKey [] paths := by
  have keeps : KeepsFirst paths (firstByKey [] paths) :=
    { names := by simpa [List.removeAll] using map_key_firstByKey [] paths
      first := fun _ kept => (first_of_mem_firstByKey kept).2 }
  constructor
  · intro others
    rw [others.eq_filterMap, ← keeps.eq_filterMap]
  · rintro rfl
    exact keeps

/-! ## Rows of paths -/

theorem firstByKey_congr {seen other : List String} (same : ∀ name, name ∈ seen ↔ name ∈ other)
    (paths : List Path) : firstByKey seen paths = firstByKey other paths := by
  induction paths generalizing seen other with
  | nil => rfl
  | cons path rest ih =>
      by_cases known : path.key ∈ seen
      · rw [firstByKey_of_mem known, firstByKey_of_mem ((same _).mp known), ih same]
      · have more : ∀ name, name ∈ path.key :: seen ↔ name ∈ path.key :: other := by
          intro name
          rw [List.mem_cons, List.mem_cons, same]
        have fresh : path.key ∉ other := fun listed => known ((same _).mpr listed)
        rw [firstByKey_of_notMem known, firstByKey_of_notMem fresh, ih more]

theorem firstByKey_append (seen : List String) (front back : List Path) :
    firstByKey seen (front ++ back) =
      firstByKey seen front ++ firstByKey (front.map Path.key ++ seen) back := by
  induction front generalizing seen with
  | nil => rfl
  | cons path rest ih =>
      by_cases known : path.key ∈ seen
      · have same : ∀ name, name ∈ rest.map Path.key ++ seen ↔
            name ∈ (path :: rest).map Path.key ++ seen := by
          intro name
          simp only [List.map_cons, List.mem_append, List.mem_cons]
          constructor
          · exact fun listed => listed.imp_left .inr
          · rintro ((rfl | later) | earlier)
            · exact .inr known
            · exact .inl later
            · exact .inr earlier
        rw [List.cons_append, firstByKey_of_mem known, firstByKey_of_mem known, ih,
          firstByKey_congr same]
      · have same : ∀ name, name ∈ rest.map Path.key ++ path.key :: seen ↔
            name ∈ (path :: rest).map Path.key ++ seen := by
          intro name
          simp only [List.map_cons, List.mem_append, List.mem_cons]
          tauto
        rw [List.cons_append, firstByKey_of_notMem known, firstByKey_of_notMem known, ih,
          firstByKey_congr same, List.cons_append]

/-- Names that were seen add nothing. -/
theorem firstByKey_of_seen {seen : List String} {paths : List Path}
    (known : ∀ path ∈ paths, path.key ∈ seen) : firstByKey seen paths = [] := by
  induction paths with
  | nil => rfl
  | cons path rest ih =>
      obtain ⟨first, later⟩ := List.forall_mem_cons.mp known
      rw [firstByKey_of_mem first, ih later]

/-- What was dropped for names seen before is dropped again where these are seen. -/
theorem firstByKey_firstByKey {inner outer : List String} (within : inner ⊆ outer)
    (paths : List Path) : firstByKey outer (firstByKey inner paths) = firstByKey outer paths := by
  induction paths generalizing inner outer with
  | nil => rfl
  | cons path rest ih =>
      by_cases dropped : path.key ∈ inner
      · rw [firstByKey_of_mem dropped, firstByKey_of_mem (within dropped), ih within]
      · rw [firstByKey_of_notMem dropped]
        by_cases known : path.key ∈ outer
        · rw [firstByKey_of_mem known, firstByKey_of_mem known,
            ih (List.cons_subset.mpr ⟨known, within⟩)]
        · have both : path.key :: inner ⊆ path.key :: outer := List.cons_subset_cons _ within
          rw [firstByKey_of_notMem known, firstByKey_of_notMem known, ih both]

/-- Paths in front of what was kept of them and others change nothing. -/
theorem firstByKey_required (required derived : List Path) :
    firstByKey [] (required ++ firstByKey [] (required ++ derived)) =
      firstByKey [] (required ++ derived) := by
  have known : ∀ path ∈ required, path.key ∈ required.map Path.key ++ [] := by
    intro path listed
    rw [List.append_nil]
    exact List.mem_map_of_mem listed
  have same : ∀ name, name ∈ required.map Path.key ++ (required.map Path.key ++ []) ↔
      name ∈ required.map Path.key ++ [] := by
    intro name
    simp
  calc firstByKey [] (required ++ firstByKey [] (required ++ derived))
      = firstByKey [] required ++
          firstByKey (required.map Path.key ++ []) (required ++ derived) := by
        rw [firstByKey_append, firstByKey_firstByKey (List.nil_subset _)]
    _ = firstByKey [] required ++ firstByKey (required.map Path.key ++ []) derived := by
        rw [firstByKey_append (required.map Path.key ++ []), firstByKey_of_seen known,
          List.nil_append, firstByKey_congr same]
    _ = firstByKey [] (required ++ derived) := (firstByKey_append [] required derived).symm

/-! ## Attributes -/

theorem Attribute.derived_of_isOther {single : Attribute} (other : single.isOther = true) :
    single.derived = [] := by
  cases single with
  | derive | malformedDerive => cases other
  | other text => rfl

/-- Merging depends on the derived paths and on the other attributes. -/
theorem mergeDerives_congr {attributes others : List Attribute}
    (derived : others.flatMap Attribute.derived = attributes.flatMap Attribute.derived)
    (rest : others.filter Attribute.isOther = attributes.filter Attribute.isOther)
    (required : List Path) : mergeDerives others required = mergeDerives attributes required := by
  rw [mergeDerives, mergeDerives, derived, rest]

theorem mergeDerives_mergeDerives (attributes : List Attribute) (required : List Path) :
    mergeDerives (mergeDerives attributes required) required = mergeDerives attributes required := by
  have silent : (attributes.filter Attribute.isOther).flatMap Attribute.derived = [] := by
    rw [List.flatMap_eq_nil_iff]
    intro single listed
    exact Attribute.derived_of_isOther (List.mem_filter.mp listed).2
  have derived : (mergeDerives attributes required).flatMap Attribute.derived =
      firstByKey [] (required ++ attributes.flatMap Attribute.derived) := by
    rw [mergeDerives, List.flatMap_cons, silent, List.append_nil]
    rfl
  have others : (mergeDerives attributes required).filter Attribute.isOther =
      attributes.filter Attribute.isOther := by
    rw [mergeDerives, List.filter_cons_of_neg (by simp [Attribute.isOther]), List.filter_filter]
    simp
  rw [mergeDerives, derived, others, firstByKey_required, ← mergeDerives]

/-- One change in how derives are spread over attributes. -/
inductive Rearranged : List Attribute → List Attribute → Prop
  /-- A list of derives becomes two. -/
  | split (before after : List Attribute) (front back : List Path) :
      Rearranged (before ++ .derive (front ++ back) :: after)
        (before ++ .derive front :: .derive back :: after)
  /-- A list of derives passes an attribute that is none. -/
  | pass (before after : List Attribute) (paths : List Path) {other : Attribute}
      (apart : ∀ listed, other ≠ .derive listed) :
      Rearranged (before ++ .derive paths :: other :: after)
        (before ++ other :: .derive paths :: after)

theorem Rearranged.derived {attributes others : List Attribute}
    (rearranged : Rearranged attributes others) :
    others.flatMap Attribute.derived = attributes.flatMap Attribute.derived := by
  cases rearranged with
  | split before after front back => simp [Attribute.derived]
  | pass before after paths apart =>
      rename_i other
      have silent : other.derived = [] := by
        cases other with
        | derive listed => exact absurd rfl (apart listed)
        | malformedDerive | other => rfl
      simp [silent]

theorem Rearranged.rest {attributes others : List Attribute}
    (rearranged : Rearranged attributes others) :
    others.filter Attribute.isOther = attributes.filter Attribute.isOther := by
  cases rearranged with
  | split before after front back => simp [Attribute.isOther]
  | pass before after paths apart =>
      have dropped : (Attribute.derive paths).isOther = false := rfl
      simp [List.filter_cons, dropped]

/-- However derives are spread over attributes, merging gives the same. -/
theorem mergeDerives_of_rearranged {attributes others : List Attribute}
    (rearranged : Relation.EqvGen Rearranged attributes others) (required : List Path) :
    mergeDerives others required = mergeDerives attributes required := by
  induction rearranged with
  | rel _ _ step => exact mergeDerives_congr step.derived step.rest required
  | refl => rfl
  | symm _ _ _ ih => exact ih.symm
  | trans _ _ _ _ _ first second => exact second.trans first

theorem mem_keys_derived {attributes : List Attribute} {name : String} :
    name ∈ (attributes.flatMap Attribute.derived).map Path.key ↔
      ∃ paths, .derive paths ∈ attributes ∧ name ∈ paths.map Path.key := by
  constructor
  · intro listed
    obtain ⟨path, derived, rfl⟩ := List.mem_map.mp listed
    obtain ⟨single, given, held⟩ := List.mem_flatMap.mp derived
    cases single with
    | derive paths => exact ⟨paths, given, List.mem_map_of_mem held⟩
    | malformedDerive | other => cases held
  · rintro ⟨paths, given, listed⟩
    obtain ⟨path, held, rfl⟩ := List.mem_map.mp listed
    exact List.mem_map_of_mem (List.mem_flatMap.mpr ⟨_, given, held⟩)

/-- **Merging loses no name, keeps what came first, and can be done again.**  One list of derives
comes first and then all attributes that are none, in order.  No two of its paths have one name, and
the names are those that are required and those in the lists there were.  The required paths come
first, each name once and in order, and no path after them has a name of theirs; of all paths with
one name, required ones before those derived, the first is kept.  Merging the same paths again
changes nothing, and neither does spreading the derives over more attributes or moving them past
others. -/
theorem derives_merged (attributes : List Attribute) (required : List Path) :
    (∃ merged,
      mergeDerives attributes required =
        .derive merged :: attributes.filter Attribute.isOther ∧
      (merged.map Path.key).Nodup ∧
      (∀ name, name ∈ merged.map Path.key ↔ name ∈ required.map Path.key ∨
        ∃ paths, .derive paths ∈ attributes ∧ name ∈ paths.map Path.key) ∧
      (∃ front added, merged = front ++ added ∧ KeepsFirst required front ∧
        ∀ path ∈ added, path.key ∉ required.map Path.key) ∧
      KeepsFirst (required ++ attributes.flatMap Attribute.derived) merged) ∧
    mergeDerives (mergeDerives attributes required) required = mergeDerives attributes required ∧
    ∀ others, Relation.EqvGen Rearranged attributes others →
      mergeDerives others required = mergeDerives attributes required := by
  have keeps := keepsFirst_iff.mpr
    (Eq.refl (firstByKey [] (required ++ attributes.flatMap Attribute.derived)))
  refine ⟨⟨_, rfl, nodup_firstByKey [] _, ?_, ?_, keeps⟩, mergeDerives_mergeDerives _ _,
    fun others rearranged => mergeDerives_of_rearranged rearranged required⟩
  · intro name
    rw [keeps.names, List.mem_eraseDups, List.map_append, List.mem_append, mem_keys_derived]
  · refine ⟨_, _, firstByKey_append [] required _, keepsFirst_iff.mpr rfl, ?_⟩
    intro path added
    have fresh := (first_of_mem_firstByKey added).1
    rwa [List.append_nil] at fresh

end Cqrs.Declaration
