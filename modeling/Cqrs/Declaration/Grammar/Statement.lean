/-
# Declaration.Grammar.Statement -- reading the statements of a block

A statement is a definition of names, an item or an expression.  Expressions need a
semicolon after them, except for the last one and for those that end with a block.
-/
import Cqrs.Declaration.Grammar.Expression

namespace Cqrs.Declaration

set_option autoImplicit false

namespace Grammar

open Reader

variable (g : Grammar)

/-- The last of the tokens taken since a row stood here is a group in curly brackets. -/
def endedInCurly (before : List Token) : Reader Bool := do
  let taken := before.take (before.length - (← get).rest.length)
  return taken.getLast?.any (Token.isGroup .curly)

/-- Reads a definition of names after its first word. -/
def definition : Reader Unit := do
  discard g.pattern
  if ← marks? ":" then discard (g.type true)
  if ← marks? "=" then
    let before := (← get).rest
    discard (g.expression true)
    if !(← endedInCurly before) then
      if ← word? "else" then g.block
  marks ";"

def seesItem : Reader Bool := do
  let isConstant := !((← seesGroup .curly 1) || (← seesWord "static" 1) ||
    ((← seesWord "async" 1) && !(← ["unsafe", "extern", "fn"].anyM (seesWord · 2))) ||
    (← seesWord "move" 1) || (← seesMarks "|" 1))
  return (← seesOneOf ["pub", "extern", "use", "fn", "mod", "type", "struct", "enum", "trait",
      "impl", "macro"]) ||
    ((← seesWord "crate") && !(← seesMarks "::" 1)) ||
    ((← seesWord "static") && ((← seesWord "mut" 1) || (← sees Token.isName 1))) ||
    ((← seesWord "const") && isConstant) ||
    ((← seesWord "unsafe") && !(← seesGroup .curly 1)) ||
    ((← seesWord "async") && (← ["unsafe", "extern", "fn"].anyM (seesWord · 1))) ||
    ((← seesWord "union") && (← sees Token.isName 1)) ||
    ((← seesWord "auto") && (← seesWord "trait" 1)) ||
    ((← seesWord "default") && ((← seesWord "unsafe" 1) || (← seesWord "impl" 1)))

/-- What follows the path and the mark with which the call of a macro begins. -/
inductive CallRest where
  /-- The name of what is defined. -/
  | defined
  /-- A group in curly brackets, which ends the statement. -/
  | curly
deriving DecidableEq, Repr

/-- What follows the path and the mark of a call, if it ends the statement or defines
something. -/
def seesCallRest? : Reader (Option CallRest) := do
  let some after ← afterOf? plainPath | return none
  match after.rest with
  | .mark '!' _ :: .group .curly _ :: rest =>
      let goesOn := beginsWithMarks ['?'] rest ||
        (beginsWithMarks ['.'] rest && !beginsWithMarks ['.', '.'] rest)
      return if goesOn then none else some .curly
  | .mark '!' _ :: token :: _ =>
      return if token.isName || token.word? == some "try" then some .defined else none
  | _ => return none

/-- Reads a statement, and tells whether it still needs a semicolon. -/
def statement : Reader Bool := keptIf do
  g.droppedAttributes
  let rest ← seesCallRest?
  if rest = some .curly then
    discard plainPath
    take 2
    discard (marks? ";")
    return (false, false)
  else if ← word? "let" then
    g.definition
    return (false, false)
  else if (← seesItem) || rest = some .defined then return (false, ← g.item)
  else
    let shape ← g.earlyExpression
    if ← marks? ";" then return (false, false)
    else return (shape != .block && shape != .call true, false)

def statementsWithin : Nat → Reader Unit
  | 0 => return ()
  | fuel + 1 => do
      whileSeen (seesMarks ";") (marks ";")
      if !(← atEnd) then
        let isOpen ← g.statement
        if !(← atEnd) then
          if isOpen then throw (.notAllowed "unexpected token, expected \x60;\x60")
          statementsWithin fuel

def readStatements : Reader Unit := do
  g.statementsWithin ((← get).rest.length + 1)

end Grammar

end Cqrs.Declaration
