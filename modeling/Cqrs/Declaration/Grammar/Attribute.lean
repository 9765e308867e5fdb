/-
# Declaration.Grammar.Attribute -- reading attributes and arguments

An attribute is a name, alone or with a group or a value after it.  The arguments of a
declaration are names with values.
-/
import Cqrs.Declaration.Arguments
import Cqrs.Declaration.Attribute
import Cqrs.Declaration.Grammar.Path

namespace Cqrs.Declaration

set_option autoImplicit false

namespace Grammar

open Reader

variable (g : Grammar)

/-- Reads the name of an attribute and gives its text. -/
def attributeName : Reader String := do
  if ← word? "unsafe" then return "unsafe" else plainPath

/-- Reads the sign of equality and a value. -/
def value : Reader Literal := do
  marks "="
  match (← get).rest with
  | [token] | token :: .mark ',' _ :: _ =>
      if ← seesLiteral then
        take
        return .ofToken token
  | _ => pure ()
  if (← seesMarks "#") && (← seesGroup .square 1) then
    throw (.notAllowed "unexpected attribute inside of attribute")
  discard (g.expression true)
  return .other

def derived : Reader (List Path) :=
  commaSeparated g.path

def readAttributeContent : Reader Attribute := do
  let ((name, content), text) ← captured do
    let name ← attributeName
    match (← get).rest with
    | .group _ content :: _ =>
        take
        return (name, some content)
    | _ =>
        if (← seesMarks "=") && !(← seesMarks "==") && !(← seesMarks "=>") then
          discard g.value
        return (name, none)
  write text
  if name != "derive" then return .other text
  match content.map (readAll g.derived) with
  | some (.ok paths) => return .derive paths
  | _ => return .malformedDerive

def attributesWithin : Nat → Reader (List Attribute)
  | 0 => return []
  | fuel + 1 => do
      if ← marks? "#" then
        let first ← group .square g.readAttributeContent
        return first :: (← attributesWithin fuel)
      else return []

def readAttributes : Reader (List Attribute) := do
  g.attributesWithin (← get).rest.length

def declarationArgument : Reader Argument := do
  let key ← attributeName
  return (key, ← g.value)

end Grammar

end Cqrs.Declaration
