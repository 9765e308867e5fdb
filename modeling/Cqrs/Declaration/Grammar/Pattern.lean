/-
# Declaration.Grammar.Pattern -- reading patterns

A pattern says what a value has to look like.  Where choices are allowed, patterns stand
with bars between them and perhaps one in front.
-/
import Cqrs.Declaration.Grammar.Member
import Cqrs.Declaration.Grammar.Type

namespace Cqrs.Declaration

set_option autoImplicit false

namespace Grammar

open Reader

variable (g : Grammar)

/-- A bar between patterns comes next, and no longer operator. -/
def seesBar : Reader Bool := do
  return (← seesMarks "|") && !(← seesMarks "||") && !(← seesMarks "|=")

/-- Reads patterns with bars between them. -/
def choiceOfPatterns : Reader PatternShape := do
  let leading ← marks? "|"
  let first ← g.pattern
  let more ← seesBar
  whileSeen seesBar do
    marks "|"
    discard g.pattern
  return if leading || more then .other else first

def rangeEnds : List String := [
  "literal", "identifier", "\x60::\x60", "\x60<\x60", "\x60self\x60", "\x60Self\x60",
  "\x60super\x60", "\x60crate\x60", "\x60const\x60"]

/-- Reads one end of a range if there is one, and tells whether there is. -/
def rangeEnd : Reader Bool := do
  let isOver := (← seesEndOr ["|", "=", ",", ";"]) || (← seesColon) || (← seesWord "if")
  let isPath := (← sees Token.isName) || (← seesMarks "::") || (← seesMarks "<") ||
    (← seesOneOf ["self", "Self", "super", "crate"])
  if isOver then return false
  else if ← seesLiteral then
    literal
    return true
  else if isPath then
    discard (g.qualifiedPath true)
    return true
  else if ← word? "const" then
    g.body
    return true
  else failExpecting rangeEnds

/-- Reads the dots of a range and its end, and tells whether it has one.  A range with
its end in it needs one; three dots for such a range are written as those of one. -/
def rangeRest : Reader Bool := do
  let closed := (← seesMarks "..=") || (← seesMarks "...")
  if closed then
    skip 3
    write "..="
  else marks ".."
  let ended ← g.rangeEnd
  if closed && !ended then failExpecting ["range upper bound"]
  return ended

def fieldPattern : Reader Unit := do
  let modified ← seesOneOf ["box", "ref", "mut"]
  discard (word? "box")
  discard (word? "ref")
  discard (word? "mut")
  let isNamed ← if modified then (do discard name; return true) else member
  if (!modified && (← seesMarks ":")) || !isNamed then
    marks ":"
    discard g.choiceOfPatterns

/-- Reads the fields of a pattern, so many at most.  The dots that stand for the fields
left out end them. -/
def fieldPatternsWithin : Nat → Reader Unit
  | 0 => return ()
  | fuel + 1 => do
      if !(← atEnd) then
        g.attributes
        if ← marks? ".." then return ()
        g.fieldPattern
        if !(← atEnd) then
          marks ","
          fieldPatternsWithin fuel

def pathPattern : Reader PatternShape := do
  let (path, qualified) ← g.qualifiedPath true
  if !qualified && (← seesMarks "!") && !(← seesMarks "!=") && path.isPlain then
    marks "!"
    anyGroup
    return .other
  else if ← seesGroup .curly then
    group .curly do g.fieldPatternsWithin ((← get).rest.length + 1)
    return .other
  else if ← seesGroup .round then
    discard (group .round (commaSeparated g.choiceOfPatterns))
    return .other
  else if ← seesMarks ".." then return if ← g.rangeRest then .other else .openRange
  else return .other

/-- Reads a name that takes the value, and perhaps a pattern for the value. -/
def namePattern : Reader Unit := do
  discard (word? "ref")
  discard (word? "mut")
  if ← seesWord "self" then take else discard name
  if ← marks? "@" then discard g.pattern

/-- What can begin a pattern, in the order in which it is looked for, before the dots of a
range. -/
def patternBeginnings : List String := [
  "identifier", "\x60::\x60", "\x60<\x60", "\x60_\x60", "literal", "\x60const\x60",
  "\x60ref\x60", "\x60mut\x60", "\x60&\x60", "parentheses", "square brackets"]

/-- Reads a pattern that is no choice of others. -/
def readPattern : Reader PatternShape := do
  let goesOn := (← ["::", "!", ".."].anyM (seesMarks · 1)) || (← seesGroup .curly 1) ||
    (← seesGroup .round 1)
  let isPath := ((← sees Token.isName) && goesOn) ||
    ((← seesWord "self") && (← seesMarks "::" 1)) || (← seesMarks "::") || (← seesMarks "<") ||
    (← seesOneOf ["Self", "super", "crate"])
  if isPath then g.pathPattern
  else if ← word? "_" then return .other
  else if ← seesWord "box" then
    kept do
      word "box"
      discard g.pattern
      return .kept
  else if (← seesMarks "-") || (← seesLiteral) || (← seesWord "const") then
    discard g.rangeEnd
    if ← seesMarks ".." then return if ← g.rangeRest then .other else .openRange
    else return .other
  else if (← sees Token.isName) || (← seesOneOf ["ref", "mut", "self"]) then
    g.namePattern
    return .other
  else if ← marks? "&" then
    discard (word? "mut")
    discard g.pattern
    return .other
  else if ← seesGroup .round then
    discard (group .round (commaSeparated g.choiceOfPatterns))
    return .other
  else if ← seesGroup .square then
    discard <| group .square <| commaSeparated do
      if (← g.choiceOfPatterns) = .openRange then
        throw (.notAllowed
          "range pattern is not allowed unparenthesized inside slice pattern")
    return .other
  else if (← seesMarks "..") && !(← seesMarks "...") then
    return if ← g.rangeRest then .openRange else .other
  else
    failExpecting (patternBeginnings ++
      (if ← seesMarks "..." then [] else ["\x60..\x60"]) ++ ["\x60const\x60"])

end Grammar

end Cqrs.Declaration
