/-
# Declaration.Grammar.Alias -- reading names for types, constants and imports

A name may stand for a type, for a constant, or for something of another place.
-/
import Cqrs.Declaration.Grammar.Parameter

namespace Cqrs.Declaration

set_option autoImplicit false

namespace Grammar

open Reader

variable (g : Grammar)

/-! ## Types -/

/-- What a name for a type has beside the name. -/
structure AliasParts where
  /-- A colon for bounds, whether bounds follow it or not. -/
  bounded : Bool
  /-- The type that the name stands for. -/
  defined : Bool

/-- Reads a name for a type from its word on.  Conditions stand before the type, after it,
or at either place. -/
def typeAlias (conditionsBefore conditionsAfter : Bool) : Reader AliasParts := do
  word "type"
  discard name
  discard g.parameters
  let bounded ← seesMarks ":"
  let isOver : Reader Bool := do return (← seesWord "where") || (← ["=", ";"].anyM (seesMarks ·))
  boundsAfterColon (discard (separated "+" isOver (g.bound false true)))
  let conditional ← if conditionsBefore then g.conditions else pure false
  let defined ← marks? "="
  if defined then discard (g.type true)
  if conditionsAfter && !conditional then discard g.conditions
  marks ";"
  return { bounded, defined }

/-! ## Constants -/

/-- Reads a constant after its word.  It is kept as it is if it has parameters or conditions,
or has no value where it needs one. -/
def constantRest (needsValue : Bool) : Reader Bool := do
  discard anyWord
  let isGeneric ← seesMarks "<"
  discard g.parameters
  marks ":"
  discard (g.type true)
  let hasValue ← marks? "="
  if hasValue then discard (g.expression true)
  let conditional ← g.conditions
  marks ";"
  return isGeneric || conditional || (needsValue && !hasValue)

def seesNameOrBlank : Reader Bool := do
  return (← sees Token.isName) || (← seesWord "_")

/-- Reads a constant from its word on, and tells whether it is kept as it is. -/
def constantItem (needsValue : Bool := true) : Reader Bool := do
  word "const"
  if !(← seesNameOrBlank) then failExpecting ["identifier", "\x60_\x60"]
  g.constantRest needsValue

/-- Reads the head of a value that lives as long as the program: its name and its type. -/
def staticHead : Reader Unit := do
  word "static"
  discard (word? "mut")
  discard name

/-- Reads a value that lives as long as the program.  It is kept as it is if its type or the
value is missing. -/
def staticItem : Reader Bool := do
  staticHead
  let isTyped ← if ← seesMarks "=" then pure false else (do
    marks ":"
    discard (g.type true)
    return true)
  if isTyped && (← marks? ";") then return true
  marks "="
  discard (g.expression true)
  marks ";"
  return !isTyped

/-! ## Imports -/

/-- What can begin an import, in the order in which it is looked for. -/
def importBeginnings : List String := [
  "identifier", "\x60self\x60", "\x60super\x60", "\x60crate\x60", "\x60try\x60", "\x60*\x60",
  "curly braces"]

/-- Reads names to import, and tells whether a path in a group begins at the root, where that
is allowed. -/
def importsWithin : Nat → Bool → Reader Bool
  | 0, _ => failUnexpected
  | fuel + 1, allowRoot => do
      if (← sees Token.isName) || (← seesOneOf ["self", "super", "crate", "try"]) then
        discard anyWord
        if ← marks? "::" then importsWithin fuel false
        else
          if ← word? "as" then
            if ← seesNameOrBlank then take
            else failExpecting ["identifier or underscore"]
          return false
      else if ← marks? "*" then return false
      else if ← seesGroup .curly then
        let roots ← group .curly <| commaSeparated do
          let isRoot ← if allowRoot then marks? "::" else pure false
          return (← importsWithin fuel (allowRoot && !isRoot)) || isRoot
        return roots.contains true
      else failExpecting importBeginnings

/-- Reads an import from its word on, and tells whether it is kept as it is. -/
def importItem : Reader Bool := do
  word "use"
  let isRoot ← marks? "::"
  let isKept ← importsWithin (Token.textOfAll (← get).rest).length !isRoot
  marks ";"
  return isKept

end Grammar

end Cqrs.Declaration
