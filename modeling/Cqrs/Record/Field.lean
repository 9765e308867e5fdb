/-
# Record.Field -- reading the fields of JSON objects

A record is a JSON object with fields of known kinds.  Reading one gives a value or the
name of what is missing or of another kind.
-/
import Cqrs.Json

namespace Cqrs

set_option autoImplicit false

/-- A value read from a record, or what could not be read. -/
abbrev Decoded := Except String

namespace Json

def texts (values : List String) : Json :=
  .array (values.map .string)

def optional (value : Option String) : Json :=
  match value with
  | some value => .string value
  | none => .null

def asText : Json → Decoded String
  | .string value => .ok value
  | _ => .error "text"

def asInt : Json → Decoded Int
  | .number (.integer value) => .ok value
  | _ => .error "integer"

def asInt64 (value : Json) : Decoded Int64 :=
  value.asInt.map Int64.ofInt

def asNat (value : Json) : Decoded Nat :=
  value.asInt.map Int.toNat

def asList : Json → Decoded (List Json)
  | .array items => .ok items
  | _ => .error "array"

def field (record : Json) (name : String) : Decoded Json :=
  match record.get? name with
  | some value => .ok value
  | none => .error name

/-- The value of a field that may be missing or null. -/
def field? (record : Json) (name : String) : Option Json :=
  match record.get? name with
  | some .null | none => none
  | some value => some value

def text (record : Json) (name : String) : Decoded String := do
  (← record.field name).asText

def int64 (record : Json) (name : String) : Decoded Int64 := do
  (← record.field name).asInt64

def nat (record : Json) (name : String) : Decoded Nat := do
  (← record.field name).asNat

/-- The list of a field; without the field it is empty. -/
def list (record : Json) (name : String) : Decoded (List Json) :=
  match record.field? name with
  | some value => value.asList
  | none => .ok []

/-- The texts of a field; without the field there are none. -/
def textList (record : Json) (name : String) : Decoded (List String) := do
  (← record.list name).mapM asText

def text? (record : Json) (name : String) : Decoded (Option String) :=
  (record.field? name).mapM asText

/-- The text of a field, or another one without it. -/
def textOr (record : Json) (name other : String) : Decoded String :=
  (record.text? name).map (·.getD other)

def read? {α : Type} (record : Json) (name : String) (read : Json → Decoded α) :
    Decoded (Option α) :=
  (record.field? name).mapM read

/-- The truth value of a field, or another one without it. -/
def flag (record : Json) (name : String) (other : Bool) : Bool :=
  match record.get? name with
  | some (.bool value) => value
  | _ => other

end Json

end Cqrs
