/-
# Declaration.Token -- the tokens of declarations

A text of declarations is a row of tokens: words, lifetimes, literals, single marks and
groups between brackets.  Marks that stand directly before another mark are joined to it,
so that a row of them can be one operator.  `Token.text` writes a token without blanks.
-/
import Cqrs.Text.Blank
import Cqrs.Text.Lowercase
import Cqrs.Text.NameTable

namespace Cqrs.Declaration

set_option autoImplicit false

/-- The kinds of brackets. -/
inductive Bracket where
  | round
  | square
  | curly
deriving DecidableEq, Repr

namespace Bracket

def opening : Bracket → Char
  | .round => '('
  | .square => '['
  | .curly => '\x7b'

def closing : Bracket → Char
  | .round => ')'
  | .square => ']'
  | .curly => '\x7d'

def all : List Bracket := [round, square, curly]

end Bracket

/-- A token. -/
inductive Token where
  | word (text : String)
  /-- A lifetime, by its name without the apostrophe. -/
  | lifetime (name : String)
  | literal (text : List Char)
  /-- A mark, and whether another mark follows it directly. -/
  | mark (character : Char) (joined : Bool)
  | group (bracket : Bracket) (content : List Token)

mutual

/-- The token's text without blanks. -/
def Token.text : Token → List Char
  | .word text => text.toList
  | .lifetime name => '\'' :: name.toList
  | .literal text => text.filter fun c => !Text.isBlank c
  | .mark character _ => [character]
  | .group bracket content =>
      bracket.opening :: (Token.textOfAll content ++ [bracket.closing])

def Token.textOfAll : List Token → List Char
  | [] => []
  | token :: rest => token.text ++ Token.textOfAll rest

end

def startsName (c : Char) : Bool :=
  c.isAlpha || c == '_' || (0x80 ≤ c.toNat && Text.inIntervals Text.nameStartIntervals c.toNat)

def continuesName (c : Char) : Bool :=
  startsName c || c.isDigit ||
    (0x80 ≤ c.toNat && Text.inIntervals Text.nameContinueIntervals c.toNat)

/-- The words that are no names, unless they are raw. -/
def reservedWords : List String := [
  "_", "abstract", "as", "async", "await", "become", "box", "break", "const", "continue",
  "crate", "do", "dyn", "else", "enum", "extern", "false", "final", "fn", "for", "if",
  "impl", "in", "let", "loop", "macro", "match", "mod", "move", "mut", "override", "priv",
  "pub", "ref", "return", "Self", "self", "static", "struct", "super", "trait", "true",
  "try", "type", "typeof", "unsafe", "unsized", "use", "virtual", "where", "while", "yield"]

end Cqrs.Declaration
