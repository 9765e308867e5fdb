/-
# Declaration.Grammar.Order -- lifetimes before others

Lifetimes stand in one row with types and constants, between angle brackets.  Such a row is
written again with the lifetimes in front of the others.
-/
import Cqrs.Declaration.Reader

namespace Cqrs.Declaration

set_option autoImplicit false

/-- A part of a row as it is written. -/
structure WrittenPart where
  isLifetime : Bool
  text : String
  /-- A comma follows. -/
  followed : Bool

namespace WrittenPart

/-- Writes lifetimes, each with its comma. -/
def lifetimesText (parts : List WrittenPart) : String :=
  String.join (parts.map fun part => part.text ++ if part.followed then "," else "")

/-- Writes other parts after what may not have ended in a comma. -/
def othersText : Bool → List WrittenPart → String
  | _, [] => ""
  | afterComma, part :: rest =>
      (if afterComma then "" else ",") ++ part.text ++
        (if part.followed then "," else "") ++ othersText part.followed rest

/-- Writes parts, the lifetimes first. -/
def textOfAll (parts : List WrittenPart) : String :=
  let lifetimes := parts.filter (·.isLifetime)
  let others := parts.filter (!·.isLifetime)
  lifetimesText lifetimes ++ othersText (lifetimes.getLast?.all (·.followed)) others

end WrittenPart

namespace Reader

/-- Reads parts, of which the reader tells whether they are lifetimes, with commas between
them up to the closing angle bracket, which stays. -/
def partsWithin (comma : Reader Unit) (part : Reader Bool) : Nat → Reader (List WrittenPart)
  | 0 => return []
  | fuel + 1 => do
      if ← seesMarks ">" then return []
      let (isLifetime, text) ← captured part
      if ← seesMarks ">" then return [⟨isLifetime, text, false⟩]
      unwritten comma
      return ⟨isLifetime, text, true⟩ :: (← partsWithin comma part fuel)

/-- Reads a row in angle brackets, which is left out again if it is empty and can be. -/
def lifetimesFirst (canBeLeftOut : Bool) (comma : Reader Unit) (part : Reader Bool) :
    Reader (List WrittenPart) := do
  unwritten (marks "<")
  let parts ← partsWithin comma part ((← get).rest.length + 1)
  unwritten (marks ">")
  if !(canBeLeftOut && parts.isEmpty) then write ("<" ++ WrittenPart.textOfAll parts ++ ">")
  return parts

end Reader

end Cqrs.Declaration
