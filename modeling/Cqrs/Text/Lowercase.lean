/-
# Text.Lowercase -- lower-casing of a text

Lower-casing as the Unicode standard defines it without regard to language: each
character goes to its lower-case form, U+0130 to two characters, and a capital
sigma to `ς` at the end of a word and to `σ` elsewhere.  A sigma ends a word when
a cased character comes before it and none after it, ignorable characters between
them skipped.
-/
import Cqrs.Text.CaseTable

namespace Cqrs.Text

set_option autoImplicit false

def inIntervals (intervals : List (Nat × Nat)) (n : Nat) : Bool :=
  intervals.any fun interval => interval.1 ≤ n && n ≤ interval.2

namespace CaseRun

def holds (run : CaseRun) (n : Nat) : Bool :=
  run.first ≤ n && n ≤ run.last && (n - run.first) % run.step == 0

end CaseRun

/-- The character skips over when the neighbours of a sigma are looked at. -/
def isCaseIgnorable (c : Char) : Bool :=
  inIntervals caseIgnorableIntervals c.toNat

/-- The character has case and is not skipped. -/
def isCased (c : Char) : Bool :=
  inIntervals casedIntervals c.toNat

/-- The lower-case form of a character on its own. -/
def lowerChar (c : Char) : List Char :=
  if c.toNat < 0x80 then [c.toLower]
  else if c.toNat = 0x130 then ['i', '\u0307']
  else
    match lowercaseRuns.find? (·.holds c.toNat) with
    | some run => [Char.ofNat ((c.toNat : Int) + run.shift).toNat]
    | none => [c]

/-- The nearest character that is not ignorable has case. -/
def meetsCased (text : List Char) : Bool :=
  match text.dropWhile isCaseIgnorable with
  | [] => false
  | c :: _ => isCased c

/-- The lower-case form of the capital sigma between two texts, the one before it
given backwards. -/
def lowerSigma (before after : List Char) : Char :=
  if meetsCased before && !meetsCased after then 'ς' else 'σ'

/-- Lower-cases a text that stands after another, given backwards. -/
def lowercaseAfter (before : List Char) : List Char → List Char
  | [] => []
  | c :: rest =>
      (if c = 'Σ' then [lowerSigma before rest] else lowerChar c) ++
        lowercaseAfter (c :: before) rest

def lowercase (text : List Char) : List Char :=
  lowercaseAfter [] text

end Cqrs.Text
