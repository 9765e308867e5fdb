/-
# Declaration.Source -- declarations from their texts

A text is split into tokens and read as a whole.  No part of it lies deeper in others than
twice the length of the tokens, so that many levels of the grammar are enough.
-/
import Cqrs.Declaration.Grammar.Level
import Cqrs.Declaration.Token.Lexer

namespace Cqrs.Declaration

set_option autoImplicit false

def tokensOfText (text : String) : Except SyntaxError (List Token) :=
  match Token.scan? text with
  | some tokens => .ok tokens
  | none => .error .noTokens

/-- The grammar with all levels that tokens can need. -/
def Grammar.ofTokens (tokens : List Token) : Grammar :=
  .ofDepth (2 * (Token.textOfAll tokens).length + 4)

def Path.ofText (text : String) : Except SyntaxError Path := do
  let tokens ← tokensOfText text
  Reader.readAll (Grammar.ofTokens tokens).path tokens

def Item.ofTokens (tokens : List Token) : Except SyntaxError Item :=
  Reader.readAll (Grammar.ofTokens tokens).readItem tokens

def Item.ofText (text : String) : Except SyntaxError Item := do
  Item.ofTokens (← tokensOfText text)

/-- Takes arguments from tokens.  What they mean is looked at before the tokens left over
are. -/
def argumentsOfTokens {α : Type} (take : List Argument → Except DeclarationError α)
    (tokens : List Token) : Except DeclarationError α := do
  let reader := Reader.commaSeparated (Grammar.ofTokens tokens).declarationArgument
  let (arguments, leftOver) ← (Reader.readRow reader tokens).mapError .malformed
  let taken ← take arguments
  match leftOver with
  | some error => throw (.malformed error)
  | none => return taken

/-- Makes something of an item by arguments.  Nothing of the item is read before the
arguments are taken, but both have to be tokens. -/
def declare {α : Type} (take : List Argument → Except DeclarationError α)
    (make : α → Item → Except DeclarationError Declared) (arguments item : String) :
    Except DeclarationError Declared := do
  let argumentTokens ← (tokensOfText arguments).mapError .malformed
  let itemTokens ← (tokensOfText item).mapError .malformed
  let taken ← argumentsOfTokens take argumentTokens
  make taken (← (Item.ofTokens itemTokens).mapError .malformed)

def declareIdentifier : String → String → Except DeclarationError Declared :=
  declare IdentifierArguments.read IdentifierArguments.declare

def declareValue : String → String → Except DeclarationError Declared :=
  declare ValueArguments.read ValueArguments.declare

end Cqrs.Declaration
