/-
# Declaration.Token.Lexer -- splitting a text into tokens

`Token.scan?` splits a text into tokens.  Blanks and comments stand between tokens and are
left out; a comment that documents becomes an attribute.  A text has no tokens if a bracket
is not closed by its like, a literal or a comment does not end, or a character can stand in
no token.  Every step takes at least one character, so the length of a text bounds them.
-/
import Cqrs.Declaration.Token
import Cqrs.Number.Base
import Cqrs.Text.Quoted

namespace Cqrs.Declaration

set_option autoImplicit false

/-! ## Blanks and comments -/

/-- The text from the end of its first line on. -/
def afterLine : List Char → List Char
  | [] => []
  | '\n' :: rest => '\n' :: rest
  | _ :: rest => afterLine rest

/-- The text after the block comments that are open, which may lie in one another. -/
def afterBlock? : Nat → List Char → Option (List Char)
  | depth, '/' :: '*' :: rest => afterBlock? (depth + 1) rest
  | 0, '*' :: '/' :: _ => none
  | 1, '*' :: '/' :: rest => some rest
  | depth + 2, '*' :: '/' :: rest => afterBlock? (depth + 1) rest
  | depth, _ :: rest => afterBlock? depth rest
  | _, [] => none

/-- The character is skipped between tokens: white space and the marks of direction. -/
def isSkipped (c : Char) : Bool :=
  Text.isBlank c || c == '\u200e' || c == '\u200f'

/-- The text without the blanks and comments at its beginning.  Comments that document
stay. -/
def skipBlanks : Nat → List Char → List Char
  | 0, text => text
  | fuel + 1, text =>
      match text with
      | '/' :: '/' :: '/' :: '/' :: rest => skipBlanks fuel (afterLine rest)
      | '/' :: '/' :: '/' :: _ | '/' :: '/' :: '!' :: _ => text
      | '/' :: '/' :: rest => skipBlanks fuel (afterLine rest)
      | '/' :: '*' :: '*' :: '/' :: rest => skipBlanks fuel rest
      | '/' :: '*' :: '*' :: '*' :: rest => skipBlock fuel text ('*' :: '*' :: rest)
      | '/' :: '*' :: '*' :: _ | '/' :: '*' :: '!' :: _ => text
      | '/' :: '*' :: rest => skipBlock fuel text rest
      | c :: rest => if isSkipped c then skipBlanks fuel rest else text
      | [] => []
where
  /-- Goes on after a block comment, or stops before it if it has no end. -/
  skipBlock (fuel : Nat) (whole inside : List Char) : List Char :=
    match afterBlock? 1 inside with
    | some rest => skipBlanks fuel rest
    | none => whole

/-- The spelling of a comment inside quotes.  A NUL is spelled by two digits where its short
spelling would go on in a digit below eight. -/
def spelledComment : List Char → List Char
  | [] => []
  | c :: rest =>
      (if c == '\x00' && rest.head?.any fun next => '0' ≤ next && next ≤ '7' then
        ['\\', 'x', '0', '0']
      else Text.quotedChar c) ++ spelledComment rest

/-- The attribute that a documenting comment stands for. -/
def documentation (inner : Bool) (comment : List Char) : List Token :=
  [.mark '#' false] ++ (if inner then [.mark '!' false] else []) ++
    [.group .square [.word "doc", .mark '=' false,
      .literal ('"' :: (spelledComment comment ++ ['"']))]]

/-- A carriage return stands in the text without a line feed after it. -/
def hasLoneReturn : List Char → Bool
  | [] => false
  | '\r' :: '\n' :: rest => hasLoneReturn rest
  | c :: rest => c == '\r' || hasLoneReturn rest

/-- Splits a documenting comment off the beginning of a text. -/
def splitDocumentation? (text : List Char) : Option (List Token × List Char) :=
  let documented (inner : Bool) (comment rest : List Char) : Option (List Token × List Char) :=
    if hasLoneReturn comment then none else some (documentation inner comment, rest)
  let line (inner : Bool) (rest : List Char) : Option (List Token × List Char) :=
    let comment := rest.takeWhile (· != '\n')
    let closesWithReturn := comment.length < rest.length && comment.getLast? == some '\r'
    documented inner (if closesWithReturn then comment.dropLast else comment) (afterLine rest)
  let block (inner : Bool) (inside : List Char) : Option (List Token × List Char) :=
    (afterBlock? 1 inside).bind fun rest =>
      documented inner (inside.take (inside.length - rest.length - 2)) rest
  match text with
  | '/' :: '/' :: '!' :: rest => line true rest
  | '/' :: '/' :: '/' :: '/' :: _ => none
  | '/' :: '/' :: '/' :: rest => line false rest
  | '/' :: '*' :: '!' :: inside => block true inside
  | '/' :: '*' :: '*' :: '*' :: _ => none
  | '/' :: '*' :: '*' :: inside => block false inside
  | _ => none

/-! ## Words -/

def splitName? : List Char → Option (List Char × List Char)
  | c :: rest =>
      if startsName c then
        some (c :: rest.takeWhile continuesName, rest.dropWhile continuesName)
      else none
  | [] => none

/-- Splits a word, which may be raw, off the beginning of a text. -/
def splitWord? (text : List Char) : Option (String × List Char) :=
  match text with
  | 'r' :: '#' :: rest =>
      match splitName? rest with
      | some (name, rest) =>
          let word := String.ofList name
          if ["_", "super", "self", "Self", "crate"].contains word then none
          else some ("r#" ++ word, rest)
      | none => none
  | text => (splitName? text).map fun parts => (String.ofList parts.1, parts.2)

/-! ## Literals -/

/-- The text after the suffix of a literal, if it has one. -/
def afterSuffix (text : List Char) : List Char :=
  match splitName? text with
  | some (_, rest) => rest
  | none => text

def isHexDigit (c : Char) : Bool :=
  (Number.hexDigit? c).isSome

/-- What a literal between quotes spells. -/
inductive SpelledKind where
  | text
  /-- A row of bytes. -/
  | bytes
  /-- A text that a NUL ends, and that holds none. -/
  | terminated
deriving DecidableEq, Repr

/-- The literal can hold the character as it is. -/
def SpelledKind.admits (kind : SpelledKind) (c : Char) : Bool :=
  match kind with
  | .text => true
  | .bytes => c.toNat < 0x80
  | .terminated => c != '\x00'

/-- The number that digits in curly brackets spell, which is a character's, and the text
after them. -/
def splitCodePoint? (text : List Char) : Option (Nat × List Char) :=
  match text with
  | '\x7b' :: rest =>
      let inside := rest.takeWhile (· != '\x7d')
      let digits := inside.filter (· != '_')
      let isCharacter (value : Nat) : Bool :=
        value < 0xD800 || (0xDFFF < value && value < 0x110000)
      if inside.head?.any isHexDigit && digits.length ≤ 6 && inside.length < rest.length then
        ((Number.ofHexDigits? digits).filter isCharacter).map
          (·, rest.drop (inside.length + 1))
      else none
  | _ => none

/-- The text after an escape, whose backslash has been read. -/
def afterEscape? (kind : SpelledKind) : List Char → Option (List Char)
  | 'x' :: a :: b :: rest =>
      let isSpelling : Bool :=
        isHexDigit b &&
          match kind with
          | .text => '0' ≤ a && a ≤ '7'
          | .bytes => isHexDigit a
          | .terminated => isHexDigit a && !(a == '0' && b == '0')
      if isSpelling then some rest else none
  | 'u' :: rest =>
      if kind = .bytes then none
      else
        match splitCodePoint? rest with
        | some (value, rest) => if kind = .terminated && value == 0 then none else some rest
        | none => none
  | '0' :: rest => if kind = .terminated then none else some rest
  | c :: rest => if ['n', 'r', 't', '\\', '\'', '"'].contains c then some rest else none
  | [] => none

/-- The text after the closing quote of a literal between quotes. -/
def afterQuoted? (kind : SpelledKind) : Nat → List Char → Option (List Char)
  | 0, _ => none
  | fuel + 1, text =>
      match text with
      | '"' :: rest => some (afterSuffix rest)
      | '\r' :: '\n' :: rest => afterQuoted? kind fuel rest
      | '\r' :: _ => none
      | '\\' :: '\n' :: rest | '\\' :: '\r' :: '\n' :: rest => afterQuoted? kind fuel rest
      | '\\' :: rest => (afterEscape? kind rest).bind (afterQuoted? kind fuel)
      | c :: rest => if kind.admits c then afterQuoted? kind fuel rest else none
      | [] => none

/-- The text after the quote and the hashes that close a raw literal. -/
def afterRaw? (kind : SpelledKind) (hashes : List Char) : List Char → Option (List Char)
  | [] => none
  | '\r' :: '\n' :: rest => afterRaw? kind hashes rest
  | '\r' :: _ => none
  | c :: rest =>
      if c = '"' && hashes.isPrefixOf rest then some (afterSuffix (rest.drop hashes.length))
      else if kind.admits c then afterRaw? kind hashes rest
      else none

/-- The text after a raw literal, whose lead has been read. -/
def afterRawLiteral? (kind : SpelledKind) (text : List Char) : Option (List Char) :=
  let hashes := text.takeWhile (· == '#')
  match text.drop hashes.length with
  | '"' :: rest => if hashes.length ≤ 255 then afterRaw? kind hashes rest else none
  | _ => none

/-- The text after a literal of one character, whose opening apostrophe has been read. -/
def afterCharacter? (kind : SpelledKind) (text : List Char) : Option (List Char) :=
  let closed (text : List Char) : Option (List Char) :=
    match text with
    | '\'' :: rest => some (afterSuffix rest)
    | _ => none
  match text with
  | '\\' :: rest => (afterEscape? kind rest).bind closed
  | c :: rest => if kind.admits c then closed rest else none
  | [] => none

/-- The text after the digits and the point and exponent of a number that has at least one
of the two. -/
def afterFloat? (text : List Char) : Option (List Char) :=
  let isPlace (c : Char) : Bool := c.isDigit || c == '_'
  let exponent (before : Option (List Char)) (text : List Char) : Option (List Char) :=
    match text with
    | [] => before
    | letter :: rest =>
        if letter != 'e' && letter != 'E' then before
        else
          let digits :=
            match rest.dropWhile (· == '_') with
            | '+' :: rest | '-' :: rest => rest
            | rest => rest
          if (digits.takeWhile isPlace).any Char.isDigit then some (digits.dropWhile isPlace)
          else before
  if !text.head?.any Char.isDigit then none
  else
    match text.dropWhile isPlace with
    | '.' :: rest =>
        if rest.head?.any fun c => c == '.' || startsName c then none
        else
          let rest := rest.dropWhile isPlace
          exponent (some rest) rest
    | rest => exponent none rest

/-- The text after a number with neither point nor exponent. -/
def afterInteger? (text : List Char) : Option (List Char) :=
  let (base, digits) := Number.splitBase text
  let isPlace (c : Char) : Bool :=
    c.isDigit || c == '_' || (base == 16 && isHexDigit c)
  let places := digits.takeWhile isPlace
  let fits (c : Char) : Bool := !c.isDigit || c.toNat - '0'.toNat < base
  if places.all (· == '_') || !places.all fits || (base == 10 && places.head? == some '_') then
    none
  else some (digits.drop places.length)

def afterNumber? (text : List Char) : Option (List Char) :=
  let ended (rest : List Char) : Option (List Char) :=
    let rest := afterSuffix rest
    if rest.head?.any continuesName then none else some rest
  match (afterFloat? text).bind ended with
  | some rest => some rest
  | none => (afterInteger? text).bind ended

def afterLiteral? (text : List Char) : Option (List Char) :=
  match text with
  | '"' :: rest => afterQuoted? .text (rest.length + 1) rest
  | 'b' :: '"' :: rest => afterQuoted? .bytes (rest.length + 1) rest
  | 'c' :: '"' :: rest => afterQuoted? .terminated (rest.length + 1) rest
  | 'b' :: '\'' :: rest => afterCharacter? .bytes rest
  | '\'' :: rest => afterCharacter? .text rest
  | 'r' :: rest => afterRawLiteral? .text rest
  | 'b' :: 'r' :: rest => afterRawLiteral? .bytes rest
  | 'c' :: 'r' :: rest => afterRawLiteral? .terminated rest
  | text => afterNumber? text

/-! ## Tokens -/

def isMark (c : Char) : Bool :=
  ['~', '!', '@', '#', '$', '%', '^', '&', '*', '-', '=', '+', '|', ';', ':', ',', '<', '.',
    '>', '/', '?'].contains c

/-- The text begins with a mark and with no comment. -/
def beginsWithMark : List Char → Bool
  | '/' :: '/' :: _ | '/' :: '*' :: _ => false
  | c :: _ => isMark c || c == '\''
  | [] => false

/-- The text begins like a literal that a word does not begin like. -/
def beginsLikeLiteral (text : List Char) : Bool :=
  [['r', '"'], ['r', '#', '"'], ['r', '#', '#'], ['b', '"'], ['b', '\''], ['b', 'r', '"'],
    ['b', 'r', '#'], ['c', '"'], ['c', 'r', '"'], ['c', 'r', '#']].any (·.isPrefixOf text)

/-- Splits a token that is no group off the beginning of a text.  An apostrophe before a
literal that begins like a name is a mark of its own. -/
def splitLeaf? (text : List Char) : Option (Token × List Char) :=
  match afterLiteral? text with
  | some rest => some (.literal (text.take (text.length - rest.length)), rest)
  | none =>
      match text with
      | [] => none
      | '\'' :: rest =>
          match splitWord? rest with
          | some (name, after) =>
              if after.head? == some '\'' ||
                  (after.head? == some '#' && !(['r', '#'].isPrefixOf rest)) then none
              else if beginsLikeLiteral rest then some (.mark '\'' true, rest)
              else some (.lifetime name, after)
          | none => none
      | c :: rest =>
          if isMark c && beginsWithMark text then some (.mark c (beginsWithMark rest), rest)
          else if beginsLikeLiteral text then none
          else (splitWord? text).map fun parts => (.word parts.1, parts.2)

/-- What stands for a literal that could not be read, and is a literal itself. -/
def unreadLiteral : List Char := "(/*ERROR*/)".toList

/-- Scans a text inside of some open brackets; the tokens before each of them and those
read since are kept backwards. -/
def scanInside : Nat → List (Bracket × List Token) → List Token → List Char →
    Option (List Token)
  | 0, _, _, _ => none
  | fuel + 1, enclosing, read, text =>
      match skipBlanks (text.length + 1) text with
      | [] => if enclosing.isEmpty then some read.reverse else none
      | c :: rest =>
          match splitDocumentation? (c :: rest) with
          | some (tokens, rest) => scanInside fuel enclosing (tokens.reverse ++ read) rest
          | none =>
              match Bracket.all.find? (·.opening == c), Bracket.all.find? (·.closing == c) with
              | some bracket, _ =>
                  if unreadLiteral.isPrefixOf (c :: rest) then
                    scanInside fuel enclosing (.literal unreadLiteral :: read)
                      (rest.drop (unreadLiteral.length - 1))
                  else scanInside fuel ((bracket, read) :: enclosing) [] rest
              | none, some bracket =>
                  match enclosing with
                  | (opened, before) :: enclosing =>
                      if opened = bracket then
                        scanInside fuel enclosing (.group bracket read.reverse :: before) rest
                      else none
                  | [] => none
              | none, none =>
                  match splitLeaf? (c :: rest) with
                  | some (token, rest) => scanInside fuel enclosing (token :: read) rest
                  | none => none

/-- The tokens of a text, which a mark of byte order may precede. -/
def Token.scan? (text : String) : Option (List Token) :=
  let characters :=
    match text.toList with
    | '\ufeff' :: rest => rest
    | characters => characters
  scanInside (characters.length + 1) [] [] characters

end Cqrs.Declaration
