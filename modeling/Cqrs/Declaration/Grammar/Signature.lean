/-
# Declaration.Grammar.Signature -- reading the heads of functions

The head of a function tells how it is called, its name, its parameters and its result.  The
first argument may be the value that the function belongs to, and the last one may stand for
any number of further arguments.
-/
import Cqrs.Declaration.Grammar.Parameter
import Cqrs.Declaration.Grammar.Pattern

namespace Cqrs.Declaration

set_option autoImplicit false

/-- What an argument of a function is. -/
inductive ArgumentShape where
  /-- The value that the function belongs to. -/
  | receiver
  /-- Any number of further arguments. -/
  | variadic
  | typed
deriving DecidableEq, Repr

namespace Grammar

open Reader

variable (g : Grammar)

/-! ## What begins a function -/

/-- The place after a word, if it stands at a place. -/
def placeAfter (word : String) (place : Nat) : Reader Nat := do
  return if ← seesWord word place then place + 1 else place

/-- The head of a function comes next, which may be called safe if that is allowed. -/
def seesSignature (allowSafe : Bool) : Reader Bool := do
  let place ← placeAfter "async" (← placeAfter "const" 0)
  let place ←
    if allowSafe && (← seesWord "safe" place) then pure (place + 1)
    else placeAfter "unsafe" place
  let place ←
    if ← seesWord "extern" place then
      pure (if ← sees Token.isText (place + 1) then place + 2 else place + 1)
    else pure place
  seesWord "fn" place

/-! ## Arguments -/

/-- Reads the value that a function belongs to, perhaps with its type. -/
def receiver : Reader Unit := do
  let borrowed ← marks? "&"
  if borrowed then
    if ← sees Token.isLifetime then take
  discard (word? "mut")
  word "self"
  if !borrowed then
    if ← marks? ":" then discard (g.type true)

/-- Reads an argument of a function.  A type with arguments may stand alone, and is written
with a name that is not used. -/
def functionParameter : Reader ArgumentShape := do
  g.attributes
  if ← marks? "..." then return .variadic
  else if ← attempt g.receiver then return .receiver
  else if (← sees Token.isName) && (← seesMarks "<" 1) then
    write "_:"
    discard (g.type true)
    return .typed
  else
    discard g.pattern
    marks ":"
    if ← marks? "..." then return .variadic
    discard (g.type true)
    return .typed

/-- Reads the arguments of a function, so many at most, after some that were read.  Only the
first one can be the value that the function belongs to, and what stands for any number of
arguments ends them. -/
def functionParametersWithin : Nat → List ArgumentShape → Reader Unit
  | 0, _ => return ()
  | fuel + 1, before => do
      if !(← atEnd) then
        let shape ← g.functionParameter
        if shape = .receiver && before.contains .receiver then
          throw (.notAllowed "unexpected second method receiver")
        if shape = .receiver && !before.isEmpty then
          throw (.notAllowed "unexpected method receiver")
        if !(← atEnd) then
          marks ","
          if shape != .variadic then functionParametersWithin fuel (shape :: before)

/-! ## Heads and blocks -/

/-- Reads the head of a function, and tells whether it is called safe. -/
def signature (allowSafe : Bool := false) : Reader Bool := do
  discard (word? "const")
  discard (word? "async")
  let isUnsafe ← word? "unsafe"
  let isSafe ← if allowSafe && !isUnsafe then word? "safe" else pure false
  convention
  word "fn"
  discard name
  discard g.parameters
  group .round do g.functionParametersWithin ((← get).rest.length + 1) []
  g.result true
  discard g.conditions
  return isSafe

end Grammar

end Cqrs.Declaration
