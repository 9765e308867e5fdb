/-
# Declaration.Grammar.Data -- reading items that hold data

Structs, enumerations and unions hold fields, which have names or stand by their places.
-/
import Cqrs.Declaration.Grammar.Parameter
import Cqrs.Declaration.Item

namespace Cqrs.Declaration

set_option autoImplicit false

namespace Grammar

open Reader

variable (g : Grammar)

/-- Reads who can see something, and tells whether that is told.  Brackets that name nobody
belong to what follows. -/
def visibility : Reader Bool := do
  if ← word? "pub" then
    match (← get).rest with
    | .group .round [.word first] :: _ =>
        if ["crate", "self", "super"].contains first then take
    | .group .round (.word "in" :: _) :: _ =>
        group .round do
          word "in"
          discard plainPath
    | _ => pure ()
    return true
  else return false

/-! ## Fields -/

def unnamedField : Reader TypeShape := do
  discard g.readAttributes
  discard visibility
  g.type true

def unnamedFields : Reader (List TypeShape) :=
  group .round (commaSeparated g.unnamedField)

/-- Reads a field with its name.  A field that is not named may be made of fields itself,
which are kept as they are. -/
def namedField : Reader TypeShape := do
  discard g.readAttributes
  discard visibility
  let isUnnamed ← word? "_"
  if !isUnnamed then discard name
  marks ":"
  let seesFields := (← seesWord "struct") || ((← seesWord "union") && (← seesGroup .curly 1))
  if isUnnamed && seesFields then
    kept do
      discard anyWord
      g.fields
      return .other
  else g.type true

def namedFields : Reader (List TypeShape) :=
  group .curly (commaSeparated g.namedField)

/-! ## Items -/

def structBody : Reader Shape := do
  let conditional ← g.conditions
  if !conditional && (← seesGroup .round) then
    let fields ← g.unnamedFields
    let conditional ← g.conditions
    if ← marks? ";" then return .tuple fields
    else failExpecting ((if conditional then [] else ["\x60where\x60"]) ++ ["\x60;\x60"])
  else if ← seesGroup .curly then return .named (← g.namedFields)
  else if ← marks? ";" then return .unit
  else
    failExpecting
      ((if conditional then [] else ["\x60where\x60", "parentheses"]) ++
        ["curly braces", "\x60;\x60"])

/-- Reads a variant of an enumeration.  Who can see it is left out again. -/
def variant : Reader Unit := do
  discard g.readAttributes
  discard (unwritten visibility)
  discard name
  if ← seesGroup .curly then discard g.namedFields
  else if ← seesGroup .round then discard g.unnamedFields
  if ← marks? "=" then discard (g.expression true)

/-- Reads a struct, an enumeration or a union by its word. -/
def dataItem (attributes : List Attribute) : Reader Item := do
  let kind ← anyWord
  let name ← name
  let isGeneric ← g.parameters
  let shape : Shape ←
    if kind = "struct" then g.structBody
    else if kind = "enum" then do
      discard g.conditions
      discard (group .curly (commaSeparated g.variant))
      pure .enumeration
    else do
      discard g.conditions
      discard g.namedFields
      pure .other
  return { name, shape, isGeneric, attributes }

end Grammar

end Cqrs.Declaration
