/-
# Record.Declaration -- items and declarations as records

Records describe items and arguments by their parts.  What is declared is the text that
the parts make, so that a part counts as what it is when it is read.
-/
import Cqrs.Declaration.Source
import Cqrs.Record.Field
import Cqrs.Text.Quoted

namespace Cqrs.Declaration

set_option autoImplicit false

def literalText : Json → Decoded String
  | .string value => .ok (Text.quoted value)
  | .bool value => .ok (if value then "true" else "false")
  | .number (.integer value) => .ok (toString value)
  | _ => .error "literal"

/-- The text of an argument that comes as a pair of a key and a literal. -/
def argumentText (value : Json) : Decoded String := do
  match ← value.asList with
  | [key, literal] => return (← key.asText) ++ " = " ++ (← literalText literal)
  | _ => throw "argument"

def argumentsText (record : Json) : Decoded String := do
  let arguments ← (← record.list "args").mapM argumentText
  return ", ".intercalate arguments ++ if record.flag "trailing_comma" false then "," else ""

def attributesText (attributes : List String) : String :=
  String.join (attributes.map fun content => "#[" ++ content ++ "]\n")

def namedFieldsText (fields : List String) : String :=
  ", ".intercalate ((fields.zip (List.range fields.length)).map fun (type, place) =>
    "f" ++ toString place ++ ": " ++ type)

def itemText (record : Json) : Decoded String := do
  let fields ← record.textList "fields"
  let attributes ← record.textList "attrs"
  let name ← record.text "name"
  let head := name ++ (← record.textOr "generics" "")
  return attributesText attributes ++
    match ← record.text "shape" with
    | "tuple" => "struct " ++ head ++ "(" ++ ", ".intercalate fields ++ ");"
    | "named" => "struct " ++ head ++ " \x7b " ++ namedFieldsText fields ++ " \x7d"
    | "unit" => "struct " ++ head ++ ";"
    | "enum" => "enum " ++ head ++ " \x7b " ++ ", ".intercalate fields ++ " \x7d"
    | "const" => "const " ++ name ++ ": u8 = 0;"
    | _ => "fn " ++ name ++ "() \x7b\x7d"

def Declared.toJson (declared : Declared) : Json :=
  .ofEntries [("name", .string declared.name),
    ("attrs", .texts (declared.attributes.map Attribute.text)),
    ("prefix", .optional declared.lead), ("label", .optional declared.label),
    ("impls", .texts declared.traits)]

def DeclarationError.toJson (error : DeclarationError) : Json :=
  .ofEntries [("error", .string "compile_error"), ("message", .string error.message)]

def answer (declare : String → String → Except DeclarationError Declared) (record : Json) :
    Decoded Json := do
  match declare (← argumentsText record) (← itemText (← record.field "item")) with
  | .ok declared => return declared.toJson
  | .error error => return error.toJson

/-- Merges the derives of attributes that come as a record with the required ones. -/
def mergeAnswer (record : Json) : Decoded Json := do
  let attributes := attributesText (← record.textList "attrs") ++ "struct X;"
  let required ← record.textList "required"
  match Item.ofText attributes, required.mapM Path.ofText with
  | .ok item, .ok required =>
      return .ofEntries [
        ("attrs", .texts ((mergeDerives item.attributes required).map Attribute.text)),
        ("keys", .texts (required.map Path.key))]
  | .error error, _ | _, .error error =>
      return (DeclarationError.malformed error).toJson

end Cqrs.Declaration
