/-
# Declaration.Grammar.Type -- reading types

A sum of bounds is a type of its own where a plus is allowed.  What the reader tells of a
type is its `TypeShape`.
-/
import Cqrs.Declaration.Grammar.Bound

namespace Cqrs.Declaration

set_option autoImplicit false

namespace Grammar

open Reader

variable (g : Grammar)

/-- What can begin a type, in the order in which it is looked for. -/
def typeBeginnings : List String := [
  "\x60for\x60", "parentheses", "\x60fn\x60", "\x60unsafe\x60", "\x60extern\x60",
  "identifier", "\x60::\x60", "\x60<\x60", "\x60dyn\x60", "square brackets", "\x60*\x60",
  "\x60&\x60", "\x60!\x60", "\x60impl\x60", "\x60_\x60", "lifetime"]

/-- What can follow the lifetimes that a type introduces. -/
def introducedBeginnings : List String := [
  "identifier", "\x60fn\x60", "\x60unsafe\x60", "\x60extern\x60", "\x60super\x60",
  "\x60self\x60", "\x60Self\x60", "\x60crate\x60"]

/-- Reads further bounds of a sum as long as a plus precedes them, and tells whether there
are any. -/
def moreBounds : Reader Bool := do
  let any ← seesMarks "+"
  whileSeen (seesMarks "+") do
    marks "+"
    discard (g.bound false false)
  return any

def withoutEnds (text : String) : String :=
  String.ofList (text.toList.drop 1).dropLast

/-- Reads a type in round brackets, or a row of them, and the bounds after it if they are
part of it.  The first bound of a sum has one pair of brackets at most. -/
def roundType (allowPlus : Bool) : Reader TypeShape := do
  let inside : Reader TypeShape := do
    if ← atEnd then return .other
    else if ← sees Token.isLifetime then
      discard (g.type true)
      return .other
    else
      let first ← g.type true
      if ← seesMarks "," then
        marks ","
        discard (commaSeparated (g.type true))
        return .other
      else return first
  let possible : Reader Unit := discard (g.namedBound false)
  let (isPossible, isDoubled) : Bool × Bool :=
    match (← get).rest with
    | .group _ (.mark '?' _ :: _) :: _ => (true, false)
    | .group _ (.group .round _ :: _) :: _ => (false, true)
    | _ => (false, false)
  if isPossible then
    group .round possible
    return if ← g.moreBounds then .other else .bound
  else
    let (shape, text) ← captured (group .round inside)
    let isSum := allowPlus && (← seesMarks "+")
    let isBound := shape matches .path _ false | .bound
    write (if isSum && isDoubled && isBound then withoutEnds text else text)
    if isSum && isBound then discard g.moreBounds
    return .other

/-- A name, reserved or not, and a colon after it come next. -/
def seesNamed : Reader Bool := do
  return ((← sees Token.isName) || (← seesWord "_")) && (← seesMarks ":" 1)

/-- Reads an argument of a function type, with or without its name.  An argument that says
that the value itself can be changed is kept as it is. -/
def functionArgument (first : Bool) : Reader Unit := keptIf do
  let changesSelf := first && (← seesWord "mut") && (← seesWord "self" 1)
  if changesSelf then word "mut"
  let isSelf := first && (← seesWord "self")
  let isNamed := ((← sees Token.isName) || (← seesWord "_") || isSelf) && (← seesColon 1)
  if isNamed then
    discard anyWord
    marks ":"
  if first && !(isSelf && isNamed) && (← seesWord "mut") && (← seesWord "self" 1) then
    take 2
    return ((), true)
  else if changesSelf && !isNamed then word "self"
  else discard (g.type true)
  return ((), changesSelf)

def variadicArgument : Reader Unit := do
  if ← seesNamed then
    discard anyWord
    marks ":"
  marks "..."
  discard (marks? ",")

/-- Reads the arguments of a function type, so many at most, where the first of all may be
next. -/
def functionArgumentsWithin : Nat → Bool → Reader Unit
  | 0, _ => return ()
  | fuel + 1, first => do
      if !(← atEnd) then
        g.attributes
        if (← seesMarks "...") || ((← seesNamed) && (← seesMarks "..." 2)) then variadicArgument
        else
          g.functionArgument first
          if !(← atEnd) then
            marks ","
            functionArgumentsWithin fuel false

def functionArguments : Reader Unit := do
  g.functionArgumentsWithin ((← get).rest.length + 1) true

/-- Reads how a function is called, if that is told. -/
def convention : Reader Unit := do
  if ← word? "extern" then
    if ← sees Token.isText then take

def functionType : Reader Unit := do
  discard (word? "unsafe")
  convention
  word "fn"
  group .round g.functionArguments
  g.result

/-- Reads further bounds of a sum, so many at most.  A plus that no bound follows ends it. -/
def furtherBoundsWithin : Nat → Reader Unit
  | 0 => return ()
  | fuel + 1 => do
      if ← marks? "+" then
        let begins := (← sees fun token => token.word?.isSome || token.isLifetime) ||
          (← seesMarks "::") || (← seesMarks "?") || (← seesGroup .round)
        if begins then
          discard (g.bound false false)
          furtherBoundsWithin fuel

def pathType (allowPlus introduces : Bool) : Reader TypeShape := do
  let (path, qualified) ← g.qualifiedPath
  if qualified then return .path path true
  if (← seesMarks "!") && !(← seesMarks "!=") && path.isPlain then
    marks "!"
    anyGroup
    return .other
  if introduces || (allowPlus && (← seesMarks "+")) then
    let isSum := allowPlus && (← seesMarks "+")
    if allowPlus then g.furtherBoundsWithin ((← get).rest.length + 1)
    return if isSum then .other else .bound
  return .path path false

/-- Reads bounds of which one at least has to be named. -/
def namedBounds (allowPlus allowCaptures allowConstant : Bool) (reason : String) :
    Reader Unit := do
  let bounds ← g.bounds allowPlus allowCaptures allowConstant
  if !bounds.contains .named then throw (.notAllowed reason)

def readType (allowPlus : Bool) : Reader TypeShape := do
  let introduces ← g.boundParameters?
  let begins := (← sees Token.isName) || (← seesOneOf ["super", "self", "Self", "crate"])
  let isFunction ← seesOneOf ["fn", "unsafe", "extern"]
  if introduces && !begins && !isFunction then failExpecting introducedBeginnings
  else if isFunction then
    g.functionType
    return .other
  else if begins || (← seesMarks "::") || (← seesMarks "<") then g.pathType allowPlus introduces
  else if ← seesGroup .round then g.roundType allowPlus
  else if ← seesWord "dyn" then
    keptIf do
      word "dyn"
      let isPointer ← marks? "*"
      g.namedBounds allowPlus false false "at least one trait is required for an object type"
      return (.other, isPointer)
  else if ← seesGroup .square then
    group .square do
      discard (g.type true)
      if ← marks? ";" then discard (g.expression true)
    return .other
  else if ← marks? "*" then
    if !((← word? "const") || (← word? "mut")) then
      failExpecting ["\x60const\x60", "\x60mut\x60"]
    discard (g.type false)
    return .other
  else if ← marks? "&" then
    if ← sees Token.isLifetime then take
    discard (word? "mut")
    discard (g.type false)
    return .other
  else if ← marks? "!" then return .other
  else if ← word? "impl" then
    g.namedBounds allowPlus true true "at least one trait must be specified"
    return .other
  else if ← word? "_" then return .other
  else if ← sees Token.isLifetime then
    g.namedBounds true false false "at least one trait is required for an object type"
    return .other
  else failExpecting typeBeginnings

end Grammar

end Cqrs.Declaration
