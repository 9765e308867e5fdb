/-
# Declaration.Grammar.Item -- reading items

Items are data, functions, constants, names for types, imports, modules, traits,
implementations, blocks of foreign items, and macros with their calls.
-/
import Cqrs.Declaration.Grammar.Associated
import Cqrs.Declaration.Grammar.Statement

namespace Cqrs.Declaration

set_option autoImplicit false

namespace Grammar

open Reader

variable (g : Grammar)

/-! ## Items that hold others -/

/-- Reads a block of members with the attributes of what encloses them. -/
def members (member : Reader Unit) : Reader Unit :=
  group .curly do
    g.innerAttributes
    whileSeen (do return !(← atEnd)) member

def moduleItem : Reader Unit := do
  discard (word? "unsafe")
  word "mod"
  if ← seesWord "try" then take else discard name
  if ← seesGroup .curly then g.members (keptIf do return ((), ← g.item))
  else if !(← marks? ";") then failExpecting ["\x60;\x60", "curly braces"]

/-- Reads a block of foreign items, of which nobody can tell who can see them. -/
def foreignItem (isPublic : Bool) : Reader Unit := do
  if isPublic then throw (.expected ["\x60extern\x60"] false)
  discard (word? "unsafe")
  convention
  g.members g.foreignMember

/-- Reads the bounds, the conditions and the members of a trait. -/
def traitRest : Reader Unit := do
  let isOver : Reader Bool := do return (← seesWord "where") || (← seesGroup .curly)
  boundsAfterColon (discard (separated "+" isOver (g.bound false true)))
  discard g.conditions
  g.members g.traitMember

/-- Reads a trait, or another name for bounds. -/
def traitItem : Reader Unit := do
  let isMarked := (← word? "unsafe") || (← seesWord "auto")
  discard (word? "auto")
  word "trait"
  discard name
  discard g.parameters
  if isMarked || (← seesGroup .curly) || (← seesMarks ":") || (← seesWord "where") then
    g.traitRest
  else if ← marks? "=" then
    let isOver : Reader Bool := do return (← seesWord "where") || (← seesMarks ";")
    discard (separated "+" isOver (g.bound false false))
    discard g.conditions
    marks ";"
  else failExpecting ["curly braces", "\x60:\x60", "\x60where\x60", "\x60=\x60"]

/-- Reads an implementation, and tells whether it is kept as it is: because it is constant or
of something that is no trait. -/
def implementation : Reader Bool := do
  discard (word? "default")
  discard (word? "unsafe")
  word "impl"
  if ← seesParameters then discard g.parameters
  let isConstant := (← seesWord "const") || ((← seesMarks "?") && (← seesWord "const" 1))
  if isConstant then
    discard (marks? "?")
    word "const"
  let isNegative ← if ← seesGroup .curly 1 then pure false else marks? "!"
  let shape ← g.type true
  let isOfTrait := shape matches .path _ false
  let isFor ← word? "for"
  if isFor then discard (g.type true)
  else if isNegative then throw (.notAllowed "inherent impls cannot be negative")
  discard g.conditions
  g.members g.implementedMember
  return isConstant || (isFor && !isOfTrait)

/-! ## Macros and other programs -/

/-- Reads the call of a macro, which may name what it defines. -/
def callItem : Reader Unit := do
  discard plainPath
  marks "!"
  if (← sees Token.isName) || (← seesWord "try") then take
  callGroup

def macroItem : Reader Unit := do
  word "macro"
  discard name
  let hasPattern ← seesGroup .round
  if hasPattern then take
  if ← seesGroup .curly then take
  else failExpecting ((if hasPattern then [] else ["parentheses"]) ++ ["curly braces"])

/-- Reads the name by which another program is known. -/
def programItem : Reader Unit := do
  word "extern"
  word "crate"
  if ← seesWord "self" then take else discard name
  if ← word? "as" then
    if ← seesWord "_" then take else discard name
  marks ";"

/-- Reads an item that begins with the word for what is foreign. -/
def externItem (isPublic : Bool) : Reader Unit := do
  if ← seesWord "crate" 1 then programItem
  else if ← seesGroup .curly 1 then g.foreignItem isPublic
  else if ← sees Token.isText 1 then
    if ← seesGroup .curly 2 then g.foreignItem isPublic
    else
      take 2
      failExpecting ["curly braces"]
  else
    take
    failExpecting ["\x60crate\x60", "curly braces", "string literal"]

/-! ## Any item -/

/-- What can begin an item, in the order in which it is looked for. -/
def itemBeginnings : List String := [
  "fn", "extern", "use", "static", "const", "unsafe", "mod", "type", "struct", "enum",
  "union", "trait", "auto", "impl", "default", "macro"]

/-- Refuses what stands here, where one of some words is wanted and perhaps something else. -/
def failExpectingWord {α : Type} (words others : List String) : Reader α := do
  let next := (← get).rest.head?.bind Token.word?
  failExpecting
    (((words.filter fun word => next != some word).map ("\x60" ++ · ++ "\x60")) ++ others)

/-- Reads an item that is called unsafe, and tells whether it is kept as it is. -/
def unsafeItem (isPublic : Bool) : Reader Bool := do
  if (← seesWord "trait" 1) || ((← seesWord "auto" 1) && (← seesWord "trait" 2)) then
    g.traitItem
    return false
  else if ← seesWord "impl" 1 then return (← g.implementation) || isPublic
  else if ← seesWord "extern" 1 then
    g.foreignItem isPublic
    return false
  else if ← seesWord "mod" 1 then
    g.moduleItem
    return false
  else
    take
    failExpectingWord ["trait", "auto", "impl", "extern", "mod"] []

/-- Reads an item that is no data after its attributes, and tells whether it is kept as it
is. -/
def otherItem (isPublic : Bool) : Reader Bool := do
  let isTrait := (← seesWord "trait") || ((← seesWord "auto") && (← seesWord "trait" 1))
  let isImplementation := (← seesWord "impl") ||
    ((← seesWord "default") && !(← seesMarks "!" 1))
  if ← seesFunction then
    discard (g.signature)
    if ← marks? ";" then return true
    g.body
    return false
  else if ← seesWord "extern" then
    g.externItem isPublic
    return false
  else if ← seesWord "use" then importItem
  else if ← seesWord "static" then g.staticItem
  else if ← seesWord "const" then g.constantItem
  else if ← seesWord "unsafe" then g.unsafeItem isPublic
  else if ← seesWord "mod" then
    g.moduleItem
    return false
  else if ← seesWord "type" then
    let parts ← g.typeAlias true false
    return parts.bounded || !parts.defined
  else if isTrait then
    g.traitItem
    return false
  else if isImplementation then return (← g.implementation) || isPublic
  else if ← seesWord "macro" then
    macroItem
    return true
  else if !isPublic && (← seesCall) then
    callItem
    return false
  else failExpectingWord itemBeginnings (if isPublic then [] else callBeginnings)

/-- Reads an item, and tells whether it is kept as it is. -/
def itemOrKept : Reader (Item × Bool) := do
  let attributes ← g.readAttributes
  let isPublic ← visibility
  let isData := (← seesOneOf ["struct", "enum"]) ||
    ((← seesWord "union") && (← sees Token.isName 1))
  if isData then return (← g.dataItem attributes, false)
  else
    let isKept ← g.otherItem isPublic
    return ({ name := "", shape := .other, isGeneric := false, attributes }, isKept)

def readItem : Reader Item := do
  return (← g.itemOrKept).1

end Grammar

end Cqrs.Declaration
