/-
# Store -- objects kept by identity

A `Store` keeps objects in the order in which they were first saved.  Saving an object
clears its event log and takes the place of the one with its identity; an object of a
new identity goes to the end.  A `Repository` guards a store: a save that breaks off
while it compares leaves the repository poisoned, and from then on every access fails.
-/
import Cqrs.Identifier

namespace Cqrs

set_option autoImplicit false

/-- Objects with an identity and a log of events. -/
class Aggregate (α : Type) where
  kind : IdentifierKind
  id : α → Identifier kind
  /-- The name of the type of object. -/
  typeName : String
  /-- The object as it is loaded again: without recorded events. -/
  withoutEvents : α → α
  /-- Comparing the object with a stored one breaks off. -/
  breaksComparison : α → Bool := fun _ => false

/-- Objects in the order in which they were first saved. -/
structure Store (α : Type) where
  items : List α
deriving DecidableEq

namespace Store

variable {α : Type} [Aggregate α]

def empty : Store α := ⟨[]⟩

def find? (store : Store α) (id : Identifier (Aggregate.kind α)) : Option α :=
  store.items.find? fun item => Aggregate.id item == id

/-- Puts an object in the place of the first one with its identity, or at the end. -/
def place (item : α) : List α → List α
  | [] => [item]
  | held :: rest =>
      if Aggregate.id held = Aggregate.id item then item :: rest else held :: place item rest

/-- Saves an object without its recorded events. -/
def save (store : Store α) (item : α) : Store α :=
  ⟨place (Aggregate.withoutEvents item) store.items⟩

def delete (store : Store α) (id : Identifier (Aggregate.kind α)) : Store α :=
  ⟨store.items.filter fun item => Aggregate.id item != id⟩

/-- The stored object with an identity, which has to be there. -/
def obtain (resource : String) (store : Store α) (id : Identifier (Aggregate.kind α)) :
    Except DomainError α :=
  match store.find? id with
  | some item => .ok item
  | none => .error (.notFound resource (some id.text))

end Store

/-- A store behind a lock that a save can poison. -/
inductive Repository (α : Type) where
  | healthy (store : Store α)
  | poisoned
deriving DecidableEq

/-- How a save ended. -/
inductive SaveOutcome where
  | saved
  | brokenOff
  | refused (error : DomainError)
deriving DecidableEq, Repr

namespace Repository

variable {α : Type} [Aggregate α]

def empty : Repository α := .healthy .empty

def poisonedError (α : Type) [Aggregate α] : DomainError :=
  .repository (Aggregate.typeName α ++ " store poisoned")

/-- The store, unless the repository is poisoned. -/
def read : Repository α → Except DomainError (Store α)
  | .healthy store => .ok store
  | .poisoned => .error (poisonedError α)

/-- Saves an object.  Where there is an object to compare it with, the comparison may
break off and poison the repository. -/
def save (item : α) : Repository α → SaveOutcome × Repository α
  | .healthy store =>
      if Aggregate.breaksComparison item && !store.items.isEmpty then (.brokenOff, .poisoned)
      else (.saved, .healthy (store.save item))
  | .poisoned => (.refused (poisonedError α), .poisoned)

def delete (id : Identifier (Aggregate.kind α)) :
    Repository α → Except DomainError Unit × Repository α
  | .healthy store => (.ok (), .healthy (store.delete id))
  | .poisoned => (.error (poisonedError α), .poisoned)

def find? (repository : Repository α) (id : Identifier (Aggregate.kind α)) :
    Except DomainError (Option α) :=
  repository.read.map (·.find? id)

/-- All objects in the order in which they were first saved. -/
def all (repository : Repository α) : Except DomainError (List α) :=
  repository.read.map (·.items)

def size (repository : Repository α) : Except DomainError Nat :=
  repository.read.map (·.items.length)

def isEmpty (repository : Repository α) : Except DomainError Bool :=
  repository.read.map (·.items.isEmpty)

/-- The object with an identity, which has to be there. -/
def obtain (resource : String) (repository : Repository α)
    (id : Identifier (Aggregate.kind α)) : Except DomainError α :=
  repository.read.bind (·.obtain resource id)

end Repository

end Cqrs
