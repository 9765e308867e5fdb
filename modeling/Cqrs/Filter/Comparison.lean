/-
# Filter.Comparison -- loose equality and order of JSON values

`looselyEqual` compares truth when a side is a truth value, numbers when a side is a
number, and is strict equality otherwise.  `order?` is the order of two texts by code
points, or of two values one of which is a number.  A text counts as the number that
it spells between blanks.
-/
import Cqrs.Json
import Cqrs.Number.Decimal
import Cqrs.Text.Blank
import Cqrs.Text.Lowercase

namespace Cqrs.Filter

set_option autoImplicit false

open Number (Binary64)

/-- The number a value counts as. -/
def asNumber? : Json → Option Binary64
  | .number value => some value.toBinary64
  | .string text => Number.readBinary64? (Text.trim text.toList)
  | _ => none

/-- The truth value a value counts as: zero, the empty text and `"0"` count as false. -/
def truth? : Json → Option Bool
  | .bool value => some value
  | .number value => some (!value.toBinary64.isZero)
  | .string text => some !(text == "" || text == "0")
  | _ => none

def isBool : Json → Bool
  | .bool _ => true
  | _ => false

def isNumber : Json → Bool
  | .number _ => true
  | _ => false

/-- Equality across the kinds of values. -/
def looselyEqual (a b : Json) : Bool :=
  if isBool a || isBool b then
    match truth? a, truth? b with
    | some x, some y => x == y
    | _, _ => false
  else if isNumber a || isNumber b then
    match asNumber? a, asNumber? b with
    | some x, some y => x.equals y
    | _, _ => false
  else a.same b

/-- The order of texts by code points. -/
def orderText : List Char → List Char → Ordering
  | [], [] => .eq
  | [], _ :: _ => .lt
  | _ :: _, [] => .gt
  | c :: cs, d :: ds => (compare c.toNat d.toNat).then (orderText cs ds)

/-- How two values stand to each other, if they can be ordered. -/
def order? (a b : Json) : Option Ordering :=
  match a, b with
  | .string s, .string t => some (orderText s.toList t.toList)
  | a, b =>
      if isNumber a || isNumber b then
        match asNumber? a, asNumber? b with
        | some x, some y => x.compare? y
        | _, _ => none
      else none

def occursIn (part : List Char) : List Char → Bool
  | [] => part.isEmpty
  | c :: rest => part.isPrefixOf (c :: rest) || occursIn part rest

/-- The text occurs in another one when both are in lower case. -/
def occursInLowercase (part whole : String) : Bool :=
  occursIn (Text.lowercase part.toList) (Text.lowercase whole.toList)

end Cqrs.Filter
