/-
# Text.Quoted -- quoted text

A text between quotes in which every character that would not show is spelled by
number.  The short spellings are those of NUL, tab, line feed, carriage return,
the quote and the backslash.
-/
import Cqrs.Text.EscapeTable

namespace Cqrs.Text

set_option autoImplicit false

/-- The character is spelled by its number inside quotes. -/
def isUnprinted (c : Char) : Bool :=
  unprintedIntervals.any fun interval => interval.1 ≤ c.toNat && c.toNat ≤ interval.2

/-- The spelling of one character inside quotes. -/
def quotedChar (c : Char) : List Char :=
  if c = '\x00' then ['\\', '0']
  else if c = '\t' then ['\\', 't']
  else if c = '\n' then ['\\', 'n']
  else if c = '\r' then ['\\', 'r']
  else if c = '"' then ['\\', '"']
  else if c = '\\' then ['\\', '\\']
  else if c.toNat < 0x7F && 0x20 ≤ c.toNat then [c]
  else if isUnprinted c then
    ['\\', 'u', '\x7b'] ++ Nat.toDigits 16 c.toNat ++ ['\x7d']
  else [c]

def quoted (text : String) : String :=
  String.ofList (['"'] ++ text.toList.flatMap quotedChar ++ ['"'])

end Cqrs.Text
