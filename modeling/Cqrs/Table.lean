/-
# Table -- values under keys

A table keeps one value under each key, in the order in which the keys came.
`get?_put` and `get?_erase` say what a look-up finds after a change.
-/

namespace Cqrs

set_option autoImplicit false

/-- Values under keys. -/
structure Table (κ ν : Type) where
  entries : List (κ × ν)

namespace Table

variable {κ ν : Type} [DecidableEq κ]

def empty : Table κ ν := ⟨[]⟩

def lookup (key : κ) : List (κ × ν) → Option ν
  | [] => none
  | (other, value) :: rest => if other = key then some value else lookup key rest

/-- The entries with a value under a key, in place of the one held there or at the end. -/
def place (key : κ) (value : ν) : List (κ × ν) → List (κ × ν)
  | [] => [(key, value)]
  | (other, held) :: rest =>
      if other = key then (key, value) :: rest else (other, held) :: place key value rest

def get? (table : Table κ ν) (key : κ) : Option ν :=
  lookup key table.entries

def has (table : Table κ ν) (key : κ) : Bool :=
  (table.get? key).isSome

def put (table : Table κ ν) (key : κ) (value : ν) : Table κ ν :=
  ⟨place key value table.entries⟩

def erase (table : Table κ ν) (key : κ) : Table κ ν :=
  ⟨table.entries.filter fun entry => entry.1 ≠ key⟩

/-- The keys, in the order in which they came. -/
def keys (table : Table κ ν) : List κ :=
  table.entries.map Prod.fst

theorem lookup_place (key other : κ) (value : ν) (entries : List (κ × ν)) :
    lookup other (place key value entries) =
      if key = other then some value else lookup other entries := by
  induction entries with
  | nil => simp [place, lookup]
  | cons entry rest ih =>
      obtain ⟨held, old⟩ := entry
      by_cases here : held = key <;> by_cases sought : key = other <;>
        by_cases both : held = other <;> simp_all [place, lookup]

theorem lookup_filter (key other : κ) (entries : List (κ × ν)) :
    lookup other (entries.filter fun entry => entry.1 ≠ key) =
      if key = other then none else lookup other entries := by
  induction entries with
  | nil => simp [lookup]
  | cons entry rest ih =>
      obtain ⟨held, old⟩ := entry
      by_cases here : held = key <;> by_cases sought : key = other <;>
        by_cases both : held = other <;> simp_all [lookup]

theorem get?_put (table : Table κ ν) (key other : κ) (value : ν) :
    (table.put key value).get? other = if key = other then some value else table.get? other :=
  lookup_place key other value table.entries

theorem get?_erase (table : Table κ ν) (key other : κ) :
    (table.erase key).get? other = if key = other then none else table.get? other :=
  lookup_filter key other table.entries

theorem has_iff_mem_keys (table : Table κ ν) (key : κ) :
    table.has key = true ↔ key ∈ table.keys := by
  obtain ⟨entries⟩ := table
  induction entries with
  | nil => simp [has, get?, lookup, keys]
  | cons entry rest ih =>
      obtain ⟨held, value⟩ := entry
      simp only [has, get?, keys, lookup, List.map_cons, List.mem_cons] at ih ⊢
      by_cases same : held = key
      · simp [same]
      · simp [same, Ne.symm same, ih]

end Table

end Cqrs
