/-
# Declaration.Reader -- reading tokens

A `Reader` takes tokens off a row, and writes what it took as it is to be written again.
Inside of a group it reads the group's own row; tokens that it leaves there are no error at
once, but `Reader.readRow` tells of them when everything else could be read.
-/
import Cqrs.Declaration.SyntaxError

namespace Cqrs.Declaration

set_option autoImplicit false

/-- Where a reader stands. -/
structure Cursor where
  rest : List Token
  /-- The first group that was left before its end. -/
  leftOver : Option Bracket := none
  /-- What was read, without blanks. -/
  written : String := ""

/-- What takes tokens off a row and gives a value, or an error. -/
abbrev Reader (α : Type) := StateT Cursor (Except SyntaxError) α

def beginsWithMarks : List Char → List Token → Bool
  | [], _ => true
  | [c], .mark d _ :: _ => c == d
  | c :: more, .mark d joined :: rest => c == d && joined && beginsWithMarks more rest
  | _, _ => false

namespace Token

def word? : Token → Option String
  | .word text => some text
  | _ => none

/-- The token is a word that can be a name. -/
def isName (token : Token) : Bool :=
  token.word?.any fun text => !reservedWords.contains text

def isLifetime : Token → Bool
  | .lifetime _ => true
  | _ => false

def isGroup (bracket : Bracket) : Token → Bool
  | .group other _ => bracket == other
  | _ => false

def isNumber : Token → Bool
  | .literal (c :: _) => c.isDigit
  | _ => false

def isText : Token → Bool
  | .literal text => [['"'], ['r', '"'], ['r', '#']].any (·.isPrefixOf text)
  | _ => false

end Token

namespace Reader

variable {α : Type}

/-! ## Looking ahead -/

def ahead (count : Nat) : Reader (List Token) := do
  return (← get).rest.drop count

def atEnd : Reader Bool := do
  return (← get).rest.isEmpty

def sees (condition : Token → Bool) (count : Nat := 0) : Reader Bool := do
  return (← ahead count).head?.any condition

def seesWord (word : String) (count : Nat := 0) : Reader Bool :=
  sees (fun token => token.word? == some word) count

def seesOneOf (words : List String) : Reader Bool :=
  sees fun token => token.word?.any words.contains

def seesMarks (marks : String) (count : Nat := 0) : Reader Bool := do
  return beginsWithMarks marks.toList (← ahead count)

/-- A group between brackets of a kind stands so many places ahead. -/
def seesGroup (bracket : Bracket) (count : Nat := 0) : Reader Bool :=
  sees (Token.isGroup bracket) count

/-- A literal comes next: a literal token, a truth value or a number below zero. -/
def seesLiteral : Reader Bool := do
  match (← get).rest with
  | .literal _ :: _ | .word "true" :: _ | .word "false" :: _ => return true
  | .mark '-' _ :: number :: _ => return number.isNumber
  | _ => return false

/-! ## Errors -/

/-- Refuses what stands here: one of some things is wanted. -/
def failExpecting (wanted : List String) : Reader α := do
  throw (.expected wanted (← atEnd))

def failUnexpected : Reader α := do
  throw (.unexpected (← atEnd))

/-! ## Taking tokens -/

def write (text : String) : Reader Unit :=
  modify fun cursor => { cursor with written := cursor.written ++ text }

/-- Takes some tokens as they are. -/
def take (count : Nat := 1) : Reader Unit :=
  modify fun cursor => { cursor with
    rest := cursor.rest.drop count
    written := cursor.written ++ String.ofList (Token.textOfAll (cursor.rest.take count)) }

/-- Takes some tokens without writing them. -/
def skip (count : Nat := 1) : Reader Unit :=
  modify fun cursor => { cursor with rest := cursor.rest.drop count }

def marks (marks : String) : Reader Unit := do
  if ← seesMarks marks then take marks.length
  else throw (.expectedMarks marks)

/-- Takes the marks of an operator if they come next. -/
def marks? (marks : String) : Reader Bool := do
  if ← seesMarks marks then
    take marks.length
    return true
  else return false

def word (word : String) : Reader Unit := do
  if ← seesWord word then take
  else failExpecting ["\x60" ++ word ++ "\x60"]

def word? (word : String) : Reader Bool := do
  if ← seesWord word then
    take
    return true
  else return false

/-- Takes any word, reserved or not. -/
def anyWord : Reader String := do
  match (← get).rest with
  | .word text :: _ =>
      take
      return text
  | _ => failExpecting ["identifier"]

def name : Reader String := do
  match (← get).rest with
  | .word text :: _ => if reservedWords.contains text then throw (.reservedWord text)
  | _ => pure ()
  anyWord

def lifetime : Reader Unit := do
  if ← sees Token.isLifetime then take
  else failExpecting ["lifetime"]

def literal : Reader Unit := do
  if ← seesLiteral then take (if ← seesMarks "-" then 2 else 1)
  else failExpecting ["literal"]

/-! ## Trying -/

/-- Where a reader would stop, if it could read. -/
def afterOf? (reader : Reader α) : Reader (Option Cursor) := do
  match reader (← get) with
  | .ok (_, after) => return some after
  | .error _ => return none

/-- Reads if that can be done, and tells whether it could. -/
def attempt (reader : Reader α) : Reader Bool := do
  match ← afterOf? reader with
  | some after =>
      set after
      return true
  | none => return false

/-! ## Parts -/

def bracketsName : Bracket → String
  | .round => "parentheses"
  | .square => "square brackets"
  | .curly => "curly braces"

def group (bracket : Bracket) (inside : Reader α) : Reader α := do
  let cursor ← get
  match cursor.rest with
  | .group other content :: rest =>
      if bracket = other then
        match inside { rest := content, leftOver := cursor.leftOver } with
        | .error error => throw error
        | .ok (value, inner) =>
            set { cursor with
              rest := rest
              leftOver :=
                inner.leftOver.or (if inner.rest.isEmpty then none else some bracket)
              written := cursor.written ++ String.ofList [bracket.opening] ++ inner.written ++
                String.ofList [bracket.closing] }
            return value
      else failExpecting [bracketsName bracket]
  | _ => failExpecting [bracketsName bracket]

/-- Reads, and gives what was written instead of writing it. -/
def captured (reader : Reader α) : Reader (α × String) := do
  let before := (← get).written
  modify fun cursor => { cursor with written := "" }
  let value ← reader
  let text := (← get).written
  modify fun cursor => { cursor with written := before }
  return (value, text)

/-- Reads without writing anything. -/
def unwritten (reader : Reader α) : Reader α := do
  return (← captured reader).1

/-- Reads, and keeps the tokens as they are if the reader tells so. -/
def keptIf (reader : Reader (α × Bool)) : Reader α := do
  let before ← get
  let (value, isKept) ← reader
  if isKept then
    let after ← get
    let taken := before.rest.take (before.rest.length - after.rest.length)
    set { after with
      written := before.written ++ String.ofList (Token.textOfAll taken) }
  return value

def kept (reader : Reader α) : Reader α :=
  keptIf do return (← reader, true)

/-- Reads while a condition holds, so many times at most. -/
def repeatWhile (condition : Reader Bool) (reader : Reader Unit) : Nat → Reader Unit
  | 0 => return ()
  | fuel + 1 => do
      if ← condition then
        reader
        repeatWhile condition reader fuel

/-- Reads for each token ahead at most while a condition holds. -/
def whileSeen (condition : Reader Bool) (reader : Reader Unit) : Reader Unit := do
  repeatWhile condition reader (← get).rest.length

/-- Reads items with a mark after each but the last, which may have one, up to where a
condition holds. -/
def separatedWithin (mark : String) (isOver : Reader Bool) (item : Reader α) :
    Nat → Reader (List α)
  | 0 => return []
  | fuel + 1 => do
      if ← isOver then return []
      let first ← item
      if ← isOver then return [first]
      marks mark
      return first :: (← separatedWithin mark isOver item fuel)

/-- Reads items with a mark between them up to where a condition holds. -/
def separated (mark : String) (isOver : Reader Bool) (item : Reader α) : Reader (List α) := do
  separatedWithin mark isOver item ((← get).rest.length + 1)

/-- Reads items with commas between them up to the end of the row. -/
def commaSeparated (item : Reader α) : Reader (List α) :=
  separated "," atEnd item

/-- Reads a row, and tells the error that tokens left over are, if there are any. -/
def readRow (reader : Reader α) (tokens : List Token) :
    Except SyntaxError (α × Option SyntaxError) := do
  let (value, cursor) ← reader { rest := tokens }
  match cursor.leftOver with
  | some bracket => return (value, some (.leftOver (some bracket)))
  | none => return (value, if cursor.rest.isEmpty then none else some (.leftOver none))

/-- Reads a whole row. -/
def readAll (reader : Reader α) (tokens : List Token) : Except SyntaxError α := do
  match ← readRow reader tokens with
  | (value, none) => return value
  | (_, some error) => throw error

end Reader

end Cqrs.Declaration
