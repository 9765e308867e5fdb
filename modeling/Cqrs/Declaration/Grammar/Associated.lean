/-
# Declaration.Grammar.Associated -- reading what belongs to another item

Traits, implementations and blocks of foreign items hold functions, constants, types and
calls of macros.  What such an item could not be in its place is kept as it is.
-/
import Cqrs.Declaration.Grammar.Alias
import Cqrs.Declaration.Grammar.Data
import Cqrs.Declaration.Grammar.Signature

namespace Cqrs.Declaration

set_option autoImplicit false

namespace Grammar

open Reader

variable (g : Grammar)

/-- What can begin the call of a macro, in the order in which it is looked for. -/
def callBeginnings : List String := [
  "identifier", "\x60self\x60", "\x60super\x60", "\x60crate\x60", "\x60::\x60"]

def seesCall : Reader Bool := do
  return (← sees Token.isName) || (← seesOneOf ["self", "super", "crate"]) || (← seesMarks "::")

/-- Reads the group that a macro is called on, and a semicolon after one that is not in
curly brackets. -/
def callGroup : Reader Unit := do
  let isCurly ← seesGroup .curly
  anyGroup
  if !isCurly then marks ";"

def call : Reader Unit := do
  discard plainPath
  marks "!"
  callGroup

def seesFunction (allowSafe : Bool := false) : Reader Bool := do
  return (← seesWord "fn") || (← seesSignature allowSafe)

/-- Reads a function that a trait asks for, and perhaps its block. -/
def requiredFunction : Reader Unit := do
  discard (g.signature)
  if ← seesGroup .curly then g.body
  else if !(← marks? ";") then failExpecting ["curly braces", "\x60;\x60"]

/-- Reads a constant that a trait asks for, and tells whether it is kept as it is. -/
def requiredConstant : Reader Bool := do
  let beginsFunction ← ["async", "unsafe", "extern", "fn"].anyM (seesWord · 1)
  if beginsFunction then
    g.requiredFunction
    return false
  word "const"
  if ← seesNameOrBlank then g.constantRest false
  else
    failExpecting ["identifier", "\x60_\x60", "\x60async\x60", "\x60unsafe\x60",
      "\x60extern\x60", "\x60fn\x60"]

/-- Reads what a trait holds.  It is kept as it is if it tells who can see it or that it is a
default. -/
def traitMember : Reader Unit := keptIf do
  g.attributes
  let isPublic ← visibility
  let isDefault ← word? "default"
  let isPlain := !isPublic && !isDefault
  let isKept ←
    if ← seesFunction then (do g.requiredFunction; return false)
    else if ← seesWord "const" then g.requiredConstant
    else if ← seesWord "type" then (do discard (g.typeAlias false true); return false)
    else if isPlain && (← seesCall) then (do call; return false)
    else
      failExpecting (["\x60fn\x60", "\x60const\x60", "\x60type\x60"] ++
        if isPlain then callBeginnings else [])
  return ((), isKept || !isPlain)

def implementedMember : Reader Unit := keptIf do
  g.attributes
  let isPublic ← visibility
  let seesDefault ← seesWord "default"
  let isDefault ← if ← seesMarks "!" 1 then pure false else word? "default"
  let isPlain := !isPublic && !isDefault
  let isKept ←
    if ← seesFunction then (do
      discard (g.signature)
      if ← marks? ";" then return true
      g.body
      return false)
    else if ← seesWord "const" then g.constantItem
    else if ← seesWord "type" then (do
      let parts ← g.typeAlias false true
      return parts.bounded || !parts.defined)
    else if isPlain && (← seesCall) then (do call; return false)
    else
      failExpecting ((if seesDefault then [] else ["\x60default\x60"]) ++
        ["\x60fn\x60", "\x60const\x60", "\x60type\x60"] ++
        if isPlain then callBeginnings else [])
  return ((), isKept)

/-- Reads a foreign value that lives as long as the program, and tells whether it is kept as
it is: because it is called safe or unsafe or has a value. -/
def foreignStatic : Reader Bool := do
  let isMarked ← seesOneOf ["safe", "unsafe"]
  if isMarked then take
  staticHead
  marks ":"
  discard (g.type true)
  let hasValue ← marks? "="
  if hasValue then discard (g.expression true)
  marks ";"
  return isMarked || hasValue

def foreignMember : Reader Unit := keptIf do
  g.attributes
  let isPublic ← visibility
  let seesStatic := (← seesWord "static") ||
    ((← seesOneOf ["safe", "unsafe"]) && (← seesWord "static" 1))
  let isKept ←
    if ← seesFunction true then (do
      let isSafe ← g.signature true
      if ← seesGroup .curly then
        g.body
        return true
      marks ";"
      return isSafe)
    else if seesStatic then g.foreignStatic
    else if ← seesWord "type" then (do
      let parts ← g.typeAlias true true
      return parts.bounded || parts.defined)
    else if !isPublic && (← seesCall) then (do call; return false)
    else
      failExpecting (["\x60fn\x60", "\x60static\x60", "\x60type\x60"] ++
        if isPublic then [] else callBeginnings)
  return ((), isKept)

end Grammar

end Cqrs.Declaration
