/-
# Declaration.Grammar.Expression -- reading expressions

Expressions stand where a constant is computed: in the blocks that are arguments of paths,
in the lengths of arrays, and after the sign of equality.  Operators bind by their rank;
comparisons cannot follow one another.
-/
import Cqrs.Declaration.Grammar.Pattern

namespace Cqrs.Declaration

set_option autoImplicit false

/-- How tightly operators bind, from the loosest on. -/
inductive Rank where
  | jump
  | assignment
  | range
  | disjunction
  | conjunction
  | binding
  | comparison
  | bitOr
  | bitXor
  | bitAnd
  | shift
  | sum
  | product
  | cast
deriving DecidableEq, Repr

def Rank.place (rank : Rank) : Nat := rank.ctorIdx

namespace Grammar

open Reader

variable (g : Grammar)

/-! ## Operators -/

/-- The operators between two operands; longer ones come before those they begin with. -/
def binaryOperators : List (String × Rank) := [
  ("+=", .assignment), ("-=", .assignment), ("*=", .assignment), ("/=", .assignment),
  ("%=", .assignment), ("^=", .assignment), ("&=", .assignment), ("|=", .assignment),
  ("<<=", .assignment), (">>=", .assignment), ("&&", .conjunction), ("||", .disjunction),
  ("<<", .shift), (">>", .shift), ("==", .comparison), ("<=", .comparison),
  ("!=", .comparison), (">=", .comparison), ("+", .sum), ("-", .sum), ("*", .product),
  ("/", .product), ("%", .product), ("^", .bitXor), ("&", .bitAnd), ("|", .bitOr),
  ("<", .comparison), (">", .comparison)]

def firstOperator? : List (String × Rank) → Reader (Option (String × Rank))
  | [] => return none
  | operator :: rest => do
      if ← seesMarks operator.1 then return some operator else firstOperator? rest

def seesBinaryOperator? : Reader (Option (String × Rank)) :=
  firstOperator? binaryOperators

def seesAssignment : Reader Bool := do
  return (← seesMarks "=") && !(← seesMarks "=>")

/-- The rank of what comes next after an operand. -/
def nextRank : Reader Rank := do
  match ← seesBinaryOperator? with
  | some (_, rank) => return rank
  | none =>
      if ← seesAssignment then return .assignment
      else if ← seesMarks ".." then return .range
      else if ← seesWord "as" then return .cast
      else return .jump

/-! ## Operands -/

def callArguments : Reader Unit :=
  discard (group .round (commaSeparated (g.expression true)))

/-- Reads what follows the point after an operand. -/
def fieldOrMethod : Reader Unit := do
  if ← seesFraction then
    if !(← fieldNumbers) then return ()
  if !(← word? "await") then
    if ← member then
      if ← seesMarks "::" then
        g.arguments
        g.callArguments

/-- Reads what follows an operand as part of it: calls, fields, places and question marks.
Neither a point nor a question mark follows a range. -/
def trailers (operand : ExpressionShape) : Reader ExpressionShape := do
  let isRange := operand = .range
  let isTrailer : Reader Bool := do
    return (← seesGroup .round) || (← seesGroup .square) ||
      (!isRange && ((← seesMarks "?") || ((← seesMarks ".") && !(← seesMarks ".."))))
  let any ← isTrailer
  whileSeen isTrailer do
    if ← seesGroup .round then g.callArguments
    else if ← seesGroup .square then discard (group .square (g.expression true))
    else if ← marks? "?" then pure ()
    else
      marks "."
      g.fieldOrMethod
  return if any then .other else operand

/-- Reads a list in square brackets, or an item and how often it is there. -/
def listItems : Reader Unit := do
  if !(← atEnd) then
    discard (g.expression true)
    if ← marks? ";" then discard (g.expression true)
    else if ← marks? "," then discard (commaSeparated (g.expression true))
    else if !(← atEnd) then failExpecting ["\x60,\x60 or \x60;\x60"]

/-- Reads a condition and the block that depends on it. -/
def conditionalBlock (allowInner : Bool) : Reader Unit := do
  discard (g.expression false)
  if allowInner then g.body else g.block

/-- Reads what is done otherwise, if a condition does not hold, and more such conditions. -/
def alternatives : Nat → Reader Unit
  | 0 => return ()
  | fuel + 1 => do
      if ← word? "else" then
        if ← word? "if" then
          g.conditionalBlock false
          alternatives fuel
        else if ← seesGroup .curly then g.block
        else failExpecting ["\x60if\x60", "curly braces"]

/-- A constant pattern without a type comes next. -/
def seesBareConstant : Reader Bool := do
  return (← seesWord "const") && (← seesGroup .curly 1) && !(← seesMarks ".." 2) &&
    !(← seesMarks ":" 2)

/-- Reads an argument of a function without a name.  Where it has no type, attributes of a
pattern that is kept as it is are left out, and those that a constant one has inside. -/
def closureArgument : Reader Unit := do
  let (_, attributes) ← captured g.attributes
  if ← seesBareConstant then
    write attributes
    word "const"
    group .curly do
      unwritten g.innerAttributes
      g.statements
  else
    let (shape, pattern) ← captured g.pattern
    let isTyped ← seesMarks ":"
    write ((if shape = .kept && !isTyped then "" else attributes) ++ pattern)
    if ← marks? ":" then discard (g.type true)

/-- Reads a function without a name. -/
def closure (allowCurly : Bool) : Reader Unit := do
  discard g.boundParameters?
  discard (word? "const")
  discard (word? "static")
  discard (word? "async")
  discard (word? "move")
  marks "|"
  discard (separated "," (seesMarks "|") g.closureArgument)
  marks "|"
  if ← marks? "->" then
    discard (g.type true)
    g.block
  else discard (g.expression allowCurly)

def fieldValue : Reader Unit := do
  g.attributes
  let isNamed ← member
  if (← seesMarks ":") || !isNamed then
    marks ":"
    discard (g.expression true)

/-- Reads the fields of a literal, so many at most.  The dots before what the other fields
come from end them. -/
def fieldValuesWithin : Nat → Reader Unit
  | 0 => return ()
  | fuel + 1 => do
      if ← marks? ".." then
        if !(← atEnd) then discard (g.expression true)
      else if !(← atEnd) then
        g.fieldValue
        if !(← atEnd) then
          marks ","
          fieldValuesWithin fuel

/-- Reads a path, what is called like a function on tokens, or a literal with fields. -/
def pathOperand (allowCurly : Bool) : Reader ExpressionShape := do
  let (path, qualified) ← g.qualifiedPath true
  if !qualified && (← seesMarks "!") && !(← seesMarks "!=") && path.isPlain then
    marks "!"
    let curly ← seesGroup .curly
    anyGroup
    return .call curly
  else
    if allowCurly && (← seesGroup .curly) then
      group .curly do g.fieldValuesWithin ((← get).rest.length + 1)
    return .other

/-! ## Operands with a block at their end -/

/-- Reads an arm of a choice, and tells whether a comma has to follow it. -/
def arm : Reader Bool := do
  g.attributes
  discard g.choiceOfPatterns
  if ← word? "if" then discard (g.expression true)
  marks "=>"
  return (← g.earlyExpression) != .block

def armsWithin : Nat → Reader Unit
  | 0 => return ()
  | fuel + 1 => do
      if !(← atEnd) then
        let isOpen ← g.arm
        if isOpen && !(← atEnd) then marks "," else discard (marks? ",")
        armsWithin fuel

/-- Reads a choice by patterns after its first word. -/
def choice : Reader Unit := do
  discard (g.expression false)
  group .curly do
    g.innerAttributes
    g.armsWithin ((← get).rest.length + 1)

/-- An operand with a block at its end comes next. -/
def seesBlockOperand : Reader Bool := do
  return (← seesGroup .curly) || (← sees Token.isLifetime) ||
    (← seesOneOf ["if", "while", "loop", "match", "unsafe"]) ||
    ((← seesWord "for") && !(← seesParameters 1)) ||
    ((← seesOneOf ["const", "try"]) && (← seesGroup .curly 1))

/-- Reads an operand with a block at its end. -/
def blockOperand : Reader Unit := do
  let labelled ← sees Token.isLifetime
  if labelled then
    take
    marks ":"
  let isLoop := (← seesOneOf ["while", "for", "loop"]) || (← seesGroup .curly)
  if labelled && !isLoop then failExpecting ["loop or block expression"]
  if ← word? "if" then
    g.conditionalBlock false
    g.alternatives (← get).rest.length
  else if ← word? "while" then g.conditionalBlock true
  else if ← word? "for" then
    discard g.choiceOfPatterns
    word "in"
    g.conditionalBlock true
  else if ← word? "match" then g.choice
  else if ← word? "try" then g.block
  else
    if ← seesOneOf ["loop", "unsafe", "const"] then take
    g.body

/-! ## Ranges and operations -/

/-- What cannot be the end of a range without one comes next. -/
def seesRangeEnd (allowCurly : Bool) : Reader Bool := do
  return (← seesEndOr [",", ";", "?", "=>", "=", "+", "/", "%", "^", ">", "<=", "!=", "-=",
      "*=", "&=", "|=", "<<="]) || ((← seesMarks ".") && !(← seesMarks "..")) ||
    (!allowCurly && (← seesGroup .curly)) || (← seesWord "as")

/-- An operand whose tokens are kept as they are comes next, and nothing that belongs to
it follows. -/
def seesKept : Reader Bool := do
  let isBuiltin := (← seesWord "builtin") && (← seesMarks "#" 1) && (← seesGroup .round 3)
  let goesOn := (← seesGroup .round 4) || (← seesGroup .square 4) || (← seesMarks "?" 4) ||
    ((← seesMarks "." 4) && !(← seesMarks ".." 4))
  return (← seesWord "become") || (isBuiltin && !goesOn)

/-- Reads attributes, which are left out again before an operand that is kept. -/
def droppedAttributes : Reader Unit := do
  let (_, attributes) ← captured g.attributes
  if !(← seesKept) then write attributes

def seesExpression : Reader Bool := do
  let isMark (mark : String) (longer : List String) : Reader Bool := do
    return (← seesMarks mark) && !(← longer.anyM (seesMarks ·))
  return ((← sees fun token => token.word?.isSome) && !(← seesWord "as")) ||
    (← Bracket.all.anyM (seesGroup ·)) || (← seesLiteral) || (← isMark "!" ["!="]) ||
    (← isMark "-" ["-=", "->"]) || (← isMark "*" ["*="]) || (← isMark "|" ["|="]) ||
    (← isMark "&" ["&="]) || (← seesMarks "..") || (← isMark "<" ["<=", "<<="]) ||
    (← seesMarks "::") || (← sees Token.isLifetime) || (← seesMarks "#")

def afterAttributes : List Token → List Token
  | .mark '#' _ :: .group .square _ :: rest => afterAttributes rest
  | tokens => tokens

/-- Reads what a jump out of a block gives, if anything comes next.  Where the jump has no
label and the value has one after attributes, the value is written in brackets. -/
def jumpValue (allowCurly mayBracket : Bool) : Reader Unit := do
  if (← seesExpression) && (allowCurly || !(← seesGroup .curly)) then
    let isLabelled := (afterAttributes (← get).rest).head?.any Token.isLifetime
    let (_, value) ← captured (g.expression true)
    write (if mayBracket && isLabelled then "(" ++ value ++ ")" else value)

/-- Refuses a cast that something follows as if it were an operand. -/
def checkCast : Reader Unit := do
  let isPoint := (← seesMarks ".") && !(← seesMarks "..")
  let isCall := (← sees Token.isName 1) && ((← seesGroup .round 2) || (← seesMarks "::" 2))
  let refuse (what : String) : Reader Unit :=
    throw (.notAllowed ("casts cannot be followed by " ++ what))
  if isPoint && (← seesWord "await" 1) then refuse "\x60.await\x60"
  else if isPoint && isCall then refuse "a method call"
  else if isPoint then refuse "a field access"
  else if ← seesMarks "?" then refuse "\x60?\x60"
  else if ← seesGroup .square then refuse "indexing"
  else if ← seesGroup .round then refuse "a function call"

mutual

def operandWithin : Nat → Bool → Reader ExpressionShape
  | 0, _ => failUnexpected
  | fuel + 1, allowCurly => do
      let isClosure := (← seesMarks "|") || (← seesOneOf ["move", "static"]) ||
        ((← seesWord "for") && (← seesParameters 1)) ||
        ((← seesWord "const") && !(← seesGroup .curly 1)) ||
        ((← seesWord "async") && ((← seesMarks "|" 1) || (← seesWord "move" 1)))
      let isPath := (← sees Token.isName) || (← seesMarks "::") || (← seesMarks "<") ||
        (← seesOneOf ["self", "Self", "super", "crate"]) ||
        ((← seesWord "try") && ((← seesMarks "!" 1) || (← seesMarks "::" 1)))
      let isAsync := (← seesWord "async") && ((← seesGroup .curly 1) ||
        ((← seesWord "move" 1) && (← seesGroup .curly 2)))
      if ← seesLiteral then
        literal
        return .other
      else if isAsync then
        take
        discard (word? "move")
        g.block
        return .other
      else if ← seesBlockOperand then
        g.blockOperand
        return .block
      else if isClosure then
        g.closure allowCurly
        return .other
      else if (← seesWord "builtin") && (← seesMarks "#" 1) then
        take 2
        discard name
        if ← seesGroup .round then take else failExpecting [bracketsName .round]
        return .kept
      else if isPath then g.pathOperand allowCurly
      else if ← seesGroup .round then
        g.callArguments
        return .other
      else if ← seesGroup .square then
        group .square g.listItems
        return .other
      else if ← word? "break" then
        if ← sees Token.isLifetime then
          if ← seesMarks ":" 1 then
            discard (g.expression true)
            throw (.notAllowed "parentheses required")
          take
          g.jumpValue allowCurly false
        else g.jumpValue allowCurly true
        return .other
      else if ← word? "continue" then
        if ← sees Token.isLifetime then take
        return .other
      else if ← seesOneOf ["return", "yield"] then
        take
        if ← seesExpression then discard (g.expression true)
        return .other
      else if ← seesWord "become" then
        kept do
          word "become"
          discard (g.expression true)
          return .kept
      else if ← word? "let" then
        discard g.choiceOfPatterns
        marks "="
        let value ← markedOperandWithin fuel allowCurly
        discard (operationsWithin fuel allowCurly .comparison value)
        return .other
      else if ← seesMarks ".." then
        rangeWithin fuel allowCurly
        return .range
      else if ← word? "_" then return .other
      else failExpecting ["an expression"]

/-- Reads an operand with the marks before it and what follows it. -/
def markedOperandWithin : Nat → Bool → Reader ExpressionShape
  | 0, _ => failUnexpected
  | fuel + 1, allowCurly => keptIf do
      let isAttributed ← seesMarks "#"
      g.attributes
      if ← marks? "&" then
        if (← seesWord "raw") && ((← seesWord "mut" 1) || (← seesWord "const" 1)) then take 2
        else discard (word? "mut")
        discard (markedOperandWithin fuel allowCurly)
        return (.other, false)
      else if ← ["*", "!", "-"].anyM (seesMarks ·) then
        take
        discard (markedOperandWithin fuel allowCurly)
        return (.other, false)
      else
        let shape ← g.trailers (← operandWithin fuel allowCurly)
        if isAttributed && shape = .range then
          throw (.notAllowed
            "attributes are not allowed on range expressions starting with \x60..\x60")
        return (shape, shape = .kept)

/-- Reads the dots of a range and its end if it has one. -/
def rangeWithin : Nat → Bool → Reader Unit
  | 0, _ => failUnexpected
  | fuel + 1, allowCurly => do
      if ← seesMarks "..." then failExpecting ["\x60..=\x60"]
      let closed ← seesMarks "..="
      marks ".."
      if closed then take
      if closed || !(← seesRangeEnd allowCurly) then rightOperandWithin fuel allowCurly .range

/-- Reads the right-hand side of an operator of a rank, with all that binds tighter. -/
def rightOperandWithin : Nat → Bool → Rank → Reader Unit
  | 0, _, _ => failUnexpected
  | fuel + 1, allowCurly, rank => do
      moreOperationsWithin fuel allowCurly rank (← markedOperandWithin fuel allowCurly)

/-- Reads on while what follows an operand binds tighter than a rank. -/
def moreOperationsWithin : Nat → Bool → Rank → ExpressionShape → Reader Unit
  | 0, _, _, _ => failUnexpected
  | fuel + 1, allowCurly, rank, operand => do
      let next ← nextRank
      if rank.place < next.place || (next = rank && rank = .assignment) then
        let before := (← get).rest.length
        let operand ← operationsWithin fuel allowCurly next operand
        if (← get).rest.length != before then
          moreOperationsWithin fuel allowCurly rank operand

/-- Reads the operators after an operand that bind at least as tightly as a rank, each
with its right-hand side. -/
def operationsWithin : Nat → Bool → Rank → ExpressionShape → Reader ExpressionShape
  | 0, _, _, _ => failUnexpected
  | fuel + 1, allowCurly, base, operand => do
      if operand = .range then return operand
      match ← seesBinaryOperator? with
      | some (operator, rank) =>
          if rank.place < base.place then return operand
          if rank = .comparison && operand = .comparison then
            throw (.notAllowed "comparison operators cannot be chained")
          marks operator
          rightOperandWithin fuel allowCurly rank
          operationsWithin fuel allowCurly base
            (if rank = .comparison then .comparison else .other)
      | none =>
          if base.place ≤ Rank.assignment.place && (← seesAssignment) then
            marks "="
            rightOperandWithin fuel allowCurly .assignment
            operationsWithin fuel allowCurly base .other
          else if base.place ≤ Rank.range.place && (← seesMarks "..") then
            rangeWithin fuel allowCurly
            operationsWithin fuel allowCurly base .range
          else if base.place ≤ Rank.cast.place && (← seesWord "as") then
            take
            discard (g.type false)
            checkCast
            operationsWithin fuel allowCurly base .other
          else return operand

end

/-- The number of steps that reading an operation can take. -/
def operationSteps : Reader Nat := do
  return 8 * ((← get).rest.length + 1)

def readExpression (allowCurly : Bool) : Reader ExpressionShape := do
  let steps ← operationSteps
  let operand ← g.markedOperandWithin steps allowCurly
  g.operationsWithin steps allowCurly .jump operand

/-- Reads an expression that may end where its first block does. -/
def readEarlyExpression : Reader ExpressionShape := do
  g.droppedAttributes
  if ← seesBlockOperand then
    g.blockOperand
    if ((← seesMarks ".") && !(← seesMarks "..")) || (← seesMarks "?") then
      let operand ← g.trailers .block
      g.operationsWithin (← operationSteps) true .jump operand
    else return .block
  else g.readExpression true

end Grammar

end Cqrs.Declaration
