/-
# Declaration.Grammar.Path -- reading paths and their arguments

The names of a path may have arguments in angle brackets: lifetimes, types, constants, and
names with what they are equal to or with bounds.
-/
import Cqrs.Declaration.Grammar
import Cqrs.Declaration.Grammar.Order

namespace Cqrs.Declaration

set_option autoImplicit false

namespace Grammar

open Reader

variable (g : Grammar)

def innerAttributes : Reader Unit := do
  whileSeen (do return (← seesMarks "#") && (← seesMarks "!" 1)) do
    take 2
    group .square g.attributeContent

def block : Reader Unit :=
  group .curly g.statements

/-- Reads a block that may begin with attributes of its own. -/
def body : Reader Unit :=
  group .curly do
    g.innerAttributes
    g.statements

/-- Reads a constant that is an argument or a default: a literal, a name or a block. -/
def constant : Reader Unit := do
  if ← seesLiteral then literal
  else if ← sees Token.isName then take
  else if ← seesGroup .curly then g.body
  else failUnexpected

/-- Reads what follows a name that is an argument: what it is equal to, or its bounds. -/
def argumentRest : Reader Unit := do
  if ← marks? "=" then
    if (← seesLiteral) || (← seesGroup .curly) then g.constant
    else discard (g.type true)
  else if ← marks? ":" then
    plusSeparated (do return (← seesMarks ",") || (← seesMarks ">"))
      (discard (g.bound false true))

/-- Reads an argument and tells whether it is a lifetime. -/
def argument : Reader Bool := do
  if (← sees Token.isLifetime) && !(← seesMarks "+" 1) then
    lifetime
    return true
  else if (← seesLiteral) || (← seesGroup .curly) then
    g.constant
    return false
  else
    match ← g.type true with
    | .path path false => if path.qualifier.isEmpty then g.argumentRest
    | _ => pure ()
    return false

def arguments : Reader Unit := do
  discard (marks? "::")
  discard (lifetimesFirst false (marks ",") g.argument)

/-- Reads one name of a path and its arguments.  In an expression `::` has to precede the
arguments. -/
def segment (inExpression : Bool) : Reader (String × String) := do
  if ← seesOneOf ["super", "self", "crate", "try"] then return (← anyWord, "")
  let name ← if ← seesWord "Self" then anyWord else name
  let direct := !inExpression && (← seesMarks "<") && !(← seesMarks "<=") &&
    !(← seesMarks "<<=")
  if direct || ((← seesMarks "::") && (← seesMarks "<" 2)) then
    let (_, text) ← captured g.arguments
    write text
    return (name, text)
  else return (name, "")

/-- Reads the names of a path from one on.  Only after a type in angle brackets round
brackets cannot follow `::`. -/
def segmentsWithin (inExpression qualified : Bool) : Nat → String → Reader Path
  | 0, _ => failUnexpected
  | fuel + 1, qualifier => do
      let (name, arguments) ← g.segment inExpression
      if (← seesMarks "::") && (qualified || !(← seesGroup .round 2)) then
        marks "::"
        segmentsWithin inExpression qualified fuel (qualifier ++ name ++ arguments ++ "::")
      else return ⟨qualifier, name, arguments⟩

def path (inExpression : Bool := false) : Reader Path := do
  let leading ← marks? "::"
  g.segmentsWithin inExpression false ((← get).rest.length + 1) (if leading then "::" else "")

/-- Reads a path that a type in angle brackets may precede, and tells whether one does. -/
def qualifiedPath (inExpression : Bool := false) : Reader (Path × Bool) := do
  if ← marks? "<" then
    discard (g.type true)
    if ← word? "as" then discard g.path
    marks ">"
    marks "::"
    let path ← g.segmentsWithin inExpression true ((← get).rest.length + 1) ""
    return (path, true)
  else return (← g.path inExpression, false)

/-- Reads further names of a path without arguments, reserved or not. -/
def plainNamesWithin : Nat → String → Reader String
  | 0, _ => failUnexpected
  | fuel + 1, text => do
      let isName := (← sees Token.isName) || (← seesOneOf ["super", "self", "Self", "crate"])
      if isName then
        let text := text ++ (← anyWord)
        if ← marks? "::" then plainNamesWithin fuel (text ++ "::") else return text
      else failExpecting ["path segment after \x60::\x60"]

def plainPath : Reader String := do
  let leading ← marks? "::"
  let isName := (← sees Token.isName) || (← seesOneOf ["super", "self", "Self", "crate"])
  if isName then
    plainNamesWithin ((← get).rest.length + 1) (if leading then "::" else "")
  else name

def anyGroup : Reader Unit := do
  if ← Bracket.all.anyM (seesGroup ·) then take
  else failExpecting ["delimiter"]

end Grammar

end Cqrs.Declaration
