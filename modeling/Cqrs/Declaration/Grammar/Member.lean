/-
# Declaration.Grammar.Member -- reading the names and numbers of fields

A field is known by its name or by its number.  Numbers are written again in base ten.
Where points stand between the numbers of fields that lie in one another, the numbers may
have come as one literal, which is split at the points.
-/
import Cqrs.Declaration.Literal
import Cqrs.Declaration.Reader
import Cqrs.Declaration.Token.Lexer

namespace Cqrs.Declaration

set_option autoImplicit false

namespace Token

/-- The integer that a token spells and its suffix, if it spells an integer. -/
def integer? : Token → Option (Nat × List Char)
  | .literal text => spelledInteger? text
  | _ => none

end Token

namespace Grammar

open Reader

/-- A number comes next, perhaps one below zero, and a condition holds for it. -/
def seesNumberThat (condition : Token → Bool) : Reader Bool := do
  return (← sees fun token => token.isNumber && condition token) ||
    ((← seesMarks "-") && (← sees (fun token => token.isNumber && condition token) 1))

def seesInteger : Reader Bool :=
  seesNumberThat fun token => token.integer?.isSome

/-- A number that is no integer comes next, perhaps one below zero. -/
def seesFraction : Reader Bool :=
  seesNumberThat fun token => token.integer?.isNone

def fieldNumber : Reader Unit := do
  let belowZero ← seesMarks "-"
  match (← ahead (if belowZero then 1 else 0)).head?.bind Token.integer? with
  | none => failExpecting ["integer literal"]
  | some (value, suffix) =>
      if !suffix.isEmpty then throw (.notAllowed "expected unsuffixed integer")
      if belowZero then throw (.notAllowed "invalid digit found in string")
      if Nat.pow 2 32 ≤ value then
        throw (.notAllowed "number too large to fit in target type")
      skip
      write (toString value)

/-- Reads a number that is no integer as the numbers of fields that lie in one another, and
tells whether a point ends it. -/
def fieldNumbers : Reader Bool := do
  let belowZero ← seesMarks "-"
  let spelled := Token.textOfAll ((← get).rest.take (if belowZero then 2 else 1))
  let endsInPoint := spelled.getLast? == some '.'
  let parts := (if endsInPoint then spelled.dropLast else spelled).splitOn '.'
  let numbers ← parts.mapM fun part => do
    match Token.scan? (String.ofList part) with
    | none => throw .noTokens
    | some tokens =>
        match readAll (captured fieldNumber) tokens with
        | .ok (_, number) => return number
        | .error error => throw error
  skip (if belowZero then 2 else 1)
  write (".".intercalate numbers ++ if endsInPoint then "." else "")
  return endsInPoint

/-- Reads the name or the number of a field, and tells whether it is a name. -/
def member : Reader Bool := do
  if ← sees Token.isName then
    take
    return true
  else if ← seesInteger then
    fieldNumber
    return false
  else failExpecting ["identifier or integer"]

end Grammar

end Cqrs.Declaration
