/-
# Json.Reading -- reading texts and vocabularies out of JSON values

A type whose values have fixed names is a `Vocabulary`: `read?` finds the value of a
name, `ofJson` the value of a JSON value.  A name may also stand as the only key of
an object whose entry is null.  The wording of a mismatch names the kind found and
what was expected.
-/
import Cqrs.Json
import Cqrs.Error

namespace Cqrs

set_option autoImplicit false

namespace Json

/-- What was found where something else was expected. -/
def found : Json → String
  | .null => "null"
  | .bool true => "boolean \x60true\x60"
  | .bool false => "boolean \x60false\x60"
  | .number (.integer value) => "integer \x60" ++ toString value ++ "\x60"
  | .number (.float value) => "floating point \x60" ++ value.text ++ "\x60"
  | .string value => "string " ++ Text.quoted value
  | .array _ => "sequence"
  | .object _ => "map"

def mismatch (value : Json) (expected : String) : DomainError :=
  .serialization ("invalid type: " ++ value.found ++ ", expected " ++ expected)

end Json

/-- Fixed names for the values of a type, in their order of declaration. -/
class Vocabulary (α : Type) where
  values : List α
  name : α → String

namespace Vocabulary

variable {α : Type} [Vocabulary α]

def read? (text : String) : Option α :=
  values.find? fun value : α => name value == text

def toJson (value : α) : Json :=
  .string (name value)

/-- The error of a name that is none of the vocabulary's. -/
def unknownName (α : Type) [Vocabulary α] (text : String) : DomainError :=
  .serialization ("unknown variant \x60" ++ text ++ "\x60, expected one of " ++
    ", ".intercalate ((values : List α).map fun value => "\x60" ++ name value ++ "\x60"))

def ofName (text : String) : Except DomainError α :=
  match read? text with
  | some value => .ok value
  | none => .error (unknownName α text)

/-- Reads a value from JSON: its name, or an object with its name as only key. -/
def ofJson : Json → Except DomainError α
  | .string text => ofName text
  | .object [(key, content)] =>
      match (ofName key : Except DomainError α), content with
      | .error error, _ => .error error
      | .ok value, .null => .ok value
      | .ok _, content => .error (content.mismatch "unit")
  | .object _ =>
      .error (.serialization "invalid value: map, expected map with a single key")
  | value => .error (value.mismatch "string or map")

end Vocabulary

end Cqrs
