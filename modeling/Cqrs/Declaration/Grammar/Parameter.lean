/-
# Declaration.Grammar.Parameter -- reading the parameters of an item

An item may have generic parameters in angle brackets and conditions on them, which follow
the word `where`.
-/
import Cqrs.Declaration.Grammar.Attribute
import Cqrs.Declaration.Grammar.Bound

namespace Cqrs.Declaration

set_option autoImplicit false

namespace Grammar

open Reader

variable (g : Grammar)

/-- Reads a generic parameter, and tells whether it is a lifetime. -/
def parameter : Reader Bool := do
  discard g.readAttributes
  if ← sees Token.isLifetime then
    lifetimeParameter
    return true
  else if ← sees Token.isName then g.typeParameter
  else if ← seesWord "const" then g.constantParameter
  else if !(← word? "_") then failExpecting ["lifetime", "identifier", "\x60const\x60"]
  return false

def parameters : Reader Bool := do
  if ← seesMarks "<" then
    return !(← lifetimesFirst true (marks ",") g.parameter).isEmpty
  else return false

def seesConditionEnd : Reader Bool := do
  return (← seesEndOr [",", ";", "="]) || (← seesGroup .curly)

/-- Reads a condition on a lifetime or on a type. -/
def condition : Reader Unit := do
  if (← sees Token.isLifetime) && (← seesMarks ":" 1) then
    lifetime
    marks ":"
    plusSeparated (do return (← seesConditionEnd) || (← seesMarks ":")) lifetime
  else
    discard g.boundParameters?
    discard (g.type true)
    marks ":"
    plusSeparated (do return (← seesConditionEnd) || (← seesColon))
      (discard (g.bound false true))

def conditionsWithin : Nat → Reader Unit
  | 0 => return ()
  | fuel + 1 => do
      if !((← seesConditionEnd) || (← seesColon)) then
        g.condition
        if ← marks? "," then conditionsWithin fuel

/-- Reads conditions if their word comes next, and tells whether it does.  The word is left
out again where no condition follows it. -/
def conditions : Reader Bool := do
  if ← seesWord "where" then
    unwritten (word "where")
    if ← seesParameters then
      throw (.notAllowed
        "generic parameters on \x60where\x60 clauses are reserved for future use")
    let (_, text) ← captured do g.conditionsWithin ((← get).rest.length + 1)
    if !text.isEmpty then write ("where" ++ text)
    return true
  else return false

end Grammar

end Cqrs.Declaration
