/-
# Supply -- fresh identifiers and the time of day

What a run takes from outside itself: a sequence of UUIDs and the readings of a clock,
and how far both have been used up.
-/
import Cqrs.Identifier
import Cqrs.Instant

namespace Cqrs

set_option autoImplicit false

/-- UUIDs and readings of a clock, of which so many have been taken. -/
structure Supply where
  uuids : Nat → Uuid
  clock : Nat → Instant
  drawn : Nat := 0

namespace Supply

def uuid (supply : Supply) : Uuid :=
  supply.uuids supply.drawn

def now (supply : Supply) : Instant :=
  supply.clock supply.drawn

def next (supply : Supply) : Supply :=
  { supply with drawn := supply.drawn + 1 }

/-- A fresh identifier of a kind, and the supply after it. -/
def identifier (supply : Supply) (kind : IdentifierKind) : Identifier kind × Supply :=
  (.ofUuid kind supply.uuid, supply.next)

/-- Some fresh identifiers of a kind, and the supply after them. -/
def identifiers (kind : IdentifierKind) : Nat → Supply → List (Identifier kind) × Supply
  | 0, supply => ([], supply)
  | count + 1, supply =>
      let (first, supply) := supply.identifier kind
      let (rest, supply) := identifiers kind count supply
      (first :: rest, supply)

end Supply

end Cqrs
