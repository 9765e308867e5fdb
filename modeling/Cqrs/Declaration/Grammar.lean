/-
# Declaration.Grammar -- the grammar of declarations, one level deep

Types, bounds, expressions, patterns, items and attributes stand inside of one another.  A
`Grammar` holds the readers of what lies one level deeper, so that the readers of one level
can be given one after another; `Grammar.ofDepth` puts the levels on top of each other.
-/
import Cqrs.Declaration.Path
import Cqrs.Declaration.Reader

namespace Cqrs.Declaration

set_option autoImplicit false

/-- What a bound is. -/
inductive BoundShape where
  | lifetime
  | named
  /-- A list of what is captured. -/
  | captures
deriving DecidableEq, Repr

/-- What an expression is, as far as it decides what can follow. -/
inductive ExpressionShape where
  /-- It ends with the block that it consists of. -/
  | block
  /-- A name called on a group of tokens, perhaps in curly brackets. -/
  | call (curly : Bool)
  /-- A range, which no operator can follow. -/
  | range
  | comparison
  /-- One whose tokens are kept as they are. -/
  | kept
  | other
deriving DecidableEq, Repr

/-- What a pattern is, as far as it decides where it can stand. -/
inductive PatternShape where
  /-- A range without a beginning or without an end. -/
  | openRange
  /-- One whose tokens are kept as they are. -/
  | kept
  | other
deriving DecidableEq, Repr

/-- Readers of what lies one level deeper. -/
structure Grammar where
  /-- Reads a type, which may be a sum of bounds if that is allowed. -/
  type : Bool → Reader TypeShape
  /-- Reads a bound, which may list captures and may be constant if that is allowed. -/
  bound : Bool → Bool → Reader BoundShape
  /-- Reads an expression; curly brackets after a path belong to it if that is allowed. -/
  expression : Bool → Reader ExpressionShape
  /-- Reads an expression that may end where its first block does. -/
  earlyExpression : Reader ExpressionShape
  /-- Reads a pattern that is no choice of others. -/
  pattern : Reader PatternShape
  /-- Reads an item, and tells whether its tokens are kept as they are. -/
  item : Reader Bool
  /-- Reads fields with their names, in curly brackets. -/
  fields : Reader Unit
  /-- Reads the statements of a block. -/
  statements : Reader Unit
  /-- Reads attributes. -/
  attributes : Reader Unit
  /-- Reads what stands in the brackets of an attribute. -/
  attributeContent : Reader Unit

namespace Grammar

def empty : Grammar where
  type _ := Reader.failUnexpected
  bound _ _ := Reader.failUnexpected
  expression _ := Reader.failUnexpected
  earlyExpression := Reader.failUnexpected
  pattern := Reader.failUnexpected
  item := Reader.failUnexpected
  fields := Reader.failUnexpected
  statements := Reader.failUnexpected
  attributes := Reader.failUnexpected
  attributeContent := Reader.failUnexpected

end Grammar

namespace Reader

/-- Reads items with a plus between them, and perhaps one at the end, until a condition
holds where one could begin. -/
def plusSeparatedWithin (isOver : Reader Bool) (item : Reader Unit) : Nat → Reader Unit
  | 0 => return ()
  | fuel + 1 => do
      if ← isOver then return ()
      item
      if ← marks? "+" then plusSeparatedWithin isOver item fuel

/-- Reads items with a plus between them until a condition holds where one could begin. -/
def plusSeparated (isOver : Reader Bool) (item : Reader Unit) : Reader Unit := do
  plusSeparatedWithin isOver item ((← get).rest.length + 1)

/-- The end of the row, or one of some marks, comes next. -/
def seesEndOr (marks : List String) : Reader Bool := do
  return (← atEnd) || (← marks.anyM (seesMarks ·))

def seesColon (count : Nat := 0) : Reader Bool := do
  return (← seesMarks ":" count) && !(← seesMarks "::" count)

end Reader

end Cqrs.Declaration
