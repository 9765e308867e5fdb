/-
# Json -- JSON values

Integers and binary64 numbers are kept apart, as a reader of JSON tells them apart
by their spelling.  `Json.same` is strict equality: an integer never equals a
binary64 number, and the two zeros are equal.  `Json.ofEntries` keeps the entries of
an object sorted by key, the last of equal keys winning, so that objects are equal
as maps.
-/
import Cqrs.Number.Numeral
import Cqrs.Text.Quoted

namespace Cqrs

set_option autoImplicit false

open Number (Numeral)

/-- A JSON value. -/
inductive Json where
  | null
  | bool (value : Bool)
  | number (value : Numeral)
  | string (value : String)
  | array (items : List Json)
  | object (entries : List (String × Json))

namespace Json

def int (value : Int) : Json :=
  .number (.integer value)

/-- Puts an entry into sorted entries, in place of one with its key. -/
def insertEntry (key : String) (value : Json) : List (String × Json) → List (String × Json)
  | [] => [(key, value)]
  | (other, held) :: rest =>
      if key = other then (key, value) :: rest
      else if key < other then (key, value) :: (other, held) :: rest
      else (other, held) :: insertEntry key value rest

def ofEntries (entries : List (String × Json)) : Json :=
  .object (entries.foldl (fun sorted entry => insertEntry entry.1 entry.2 sorted) [])

def get? (key : String) : Json → Option Json
  | .object entries => entries.lookup key
  | _ => none

mutual

/-- Strict equality. -/
def same : Json → Json → Bool
  | .null, .null => true
  | .bool a, .bool b => a == b
  | .number a, .number b => a.same b
  | .string a, .string b => a == b
  | .array a, .array b => sameItems a b
  | .object a, .object b => sameEntries a b
  | _, _ => false

def sameItems : List Json → List Json → Bool
  | [], [] => true
  | a :: as, b :: bs => same a b && sameItems as bs
  | _, _ => false

def sameEntries : List (String × Json) → List (String × Json) → Bool
  | [], [] => true
  | (k, a) :: as, (l, b) :: bs => k == l && same a b && sameEntries as bs
  | _, _ => false

end

def kindName : Json → String
  | .null => "null"
  | .bool _ => "bool"
  | .number (.integer _) => "integer"
  | .number (.float _) => "float"
  | .string _ => "string"
  | .array _ => "array"
  | .object _ => "object"

mutual

/-- The value spelled out with the kinds of its parts. -/
def outline : Json → String
  | .null => "Null"
  | .bool true => "Bool(true)"
  | .bool false => "Bool(false)"
  | .number value => "Number(" ++ value.text ++ ")"
  | .string value => "String(" ++ Text.quoted value ++ ")"
  | .array items => "Array [" ++ ", ".intercalate (outlineItems items) ++ "]"
  | .object entries => "Object \x7b" ++ ", ".intercalate (outlineEntries entries) ++ "\x7d"

def outlineItems : List Json → List String
  | [] => []
  | item :: rest => outline item :: outlineItems rest

def outlineEntries : List (String × Json) → List String
  | [] => []
  | (key, value) :: rest => (Text.quoted key ++ ": " ++ outline value) :: outlineEntries rest

end

end Json

end Cqrs
