/-
# Declaration.Grammar.Bound -- reading bounds and generic parameters

Generic parameters are lifetimes, types and constants.  Bounds may introduce lifetimes of
their own, which are read like parameters.
-/
import Cqrs.Declaration.Grammar.Path

namespace Cqrs.Declaration

set_option autoImplicit false

namespace Grammar

open Reader

variable (g : Grammar)

/-! ## Parameters -/

/-- Generic parameters stand so many places ahead, and no type in angle brackets. -/
def seesParameters (count : Nat := 0) : Reader Bool := do
  let isNamed ← sees (fun token => token.isLifetime || token.isName) (count + 1)
  let goesOn := (← [">", ",", "="].anyM (seesMarks · (count + 2))) || (← seesColon (count + 2))
  return (← seesMarks "<" count) && ((← seesMarks ">" (count + 1)) ||
    (← seesMarks "#" (count + 1)) || (isNamed && goesOn) || (← seesWord "const" (count + 1)))

/-- Reads bounds after a colon if one comes next.  The colon is left out again where no
bound follows it. -/
def boundsAfterColon (bounds : Reader Unit) : Reader Unit := do
  if ← seesMarks ":" then
    unwritten (marks ":")
    let (_, text) ← captured bounds
    if !text.isEmpty then write (":" ++ text)

def lifetimeParameter : Reader Unit := do
  lifetime
  boundsAfterColon (plusSeparated (seesEndOr [",", ">"]) lifetime)

/-- Reads the name of a type, its bounds and its default. -/
def typeParameter : Reader Unit := do
  discard name
  boundsAfterColon
    (plusSeparated (seesEndOr [",", ">", "="]) (discard (g.bound false true)))
  if ← marks? "=" then discard (g.type true)

def constantParameter : Reader Unit := do
  word "const"
  discard name
  marks ":"
  discard (g.type true)
  if ← marks? "=" then g.constant

def boundParameter : Reader Unit := do
  g.attributes
  if ← sees Token.isName then g.typeParameter
  else if ← sees Token.isLifetime then lifetimeParameter
  else if ← seesWord "const" then g.constantParameter
  else failExpecting ["identifier", "lifetime", "\x60const\x60"]

def boundParameters : Reader Unit := do
  word "for"
  marks "<"
  discard (separated "," (seesMarks ">") g.boundParameter)
  marks ">"

/-- Reads the parameters that a bound introduces, if it does. -/
def boundParameters? : Reader Bool := do
  if ← seesWord "for" then
    g.boundParameters
    return true
  else return false

/-! ## Bounds -/

/-- Reads the type that follows an arrow, if an arrow comes next. -/
def result (allowPlus : Bool := false) : Reader Unit := do
  if ← marks? "->" then discard (g.type allowPlus)

/-- Reads the path of a bound, which may take types in round brackets.  Before them empty
angle brackets and `::` are left out again. -/
def boundPath : Reader Unit := do
  let (path, text) ← captured g.path
  let takesTypes := path.isBare &&
    ((← seesGroup .round) || ((← seesMarks "::") && (← seesGroup .round 2)))
  if takesTypes then
    write (path.qualifier ++ path.name)
    discard (unwritten (marks? "::"))
    discard (group .round (commaSeparated (g.type true)))
    g.result
  else write text

/-- Reads a bound that is neither a lifetime nor in brackets, and tells whether it is
constant. -/
def namedBound (allowConstant : Bool) : Reader Bool := do
  let introduces ← g.boundParameters?
  let isConstant := (← seesGroup .square) || (← seesWord "const")
  if ← seesGroup .square then
    group .square (word "const")
    if !allowConstant then throw (.notAllowed "\x60[const]\x60 is not allowed here")
  else if ← word? "const" then
    if !allowConstant then throw (.notAllowed "\x60const\x60 is not allowed here")
  let maybe ← marks? "?"
  let introduces ←
    if maybe && !introduces then g.boundParameters? else pure introduces
  g.boundPath
  if introduces && maybe then
    throw (.notAllowed
      "\x60for<...>\x60 binder not allowed with \x60?\x60 trait polarity modifier")
  return isConstant

def captures : Reader Unit := do
  word "use"
  let captured : Reader Bool := do
    if ← sees Token.isLifetime then
      take
      return true
    else if (← sees Token.isName) || (← seesWord "Self") then
      take
      return false
    else failExpecting ["lifetime", "identifier", "\x60>\x60"]
  let comma : Reader Unit := do
    if !(← marks? ",") then failExpecting ["\x60,\x60", "\x60>\x60"]
  discard (lifetimesFirst false comma captured)

/-- Reads a bound.  The tokens of a constant one are kept as they are. -/
def readBound (allowCaptures allowConstant : Bool) : Reader BoundShape := do
  if ← sees Token.isLifetime then
    take
    return .lifetime
  else if ← seesWord "use" then
    captures
    if !allowCaptures then
      throw (.notAllowed "\x60use<...>\x60 precise capturing syntax is not allowed here")
    return .captures
  else
    keptIf do
      let isConstant ←
        if ← seesGroup .round then group .round (g.namedBound allowConstant)
        else g.namedBound allowConstant
      return (.named, isConstant)

/-- Reads bounds with a plus between them, only one of them if a sum is not allowed. -/
def boundsWithin (allowPlus allowCaptures allowConstant : Bool) :
    Nat → Reader (List BoundShape)
  | 0 => return []
  | fuel + 1 => do
      let first ← g.bound allowCaptures allowConstant
      if allowPlus && (← seesMarks "+") then
        marks "+"
        let goesOn := (← sees fun token => token.word?.isSome || token.isLifetime) ||
          (← seesMarks "::") || (← seesMarks "?") || (← seesGroup .round) ||
          (allowConstant && (← seesGroup .square))
        if goesOn then
          return first :: (← boundsWithin allowPlus allowCaptures allowConstant fuel)
      return [first]

def bounds (allowPlus allowCaptures allowConstant : Bool) : Reader (List BoundShape) := do
  g.boundsWithin allowPlus allowCaptures allowConstant ((← get).rest.length + 1)

end Grammar

end Cqrs.Declaration
