/-
# Declaration.Item -- declaring identifiers and values

Two declarations extend an item: one makes a type of identifiers out of a struct around
one string, the other a type of values out of a struct or an enumeration.  Both look at the
item and merge the derives that they require into its attributes.
-/
import Cqrs.Declaration.Arguments
import Cqrs.Declaration.Attribute

namespace Cqrs.Declaration

set_option autoImplicit false

/-- The shape of an item, with the types of its fields. -/
inductive Shape where
  | tuple (fields : List TypeShape)
  | named (fields : List TypeShape)
  | unit
  | enumeration
  | other
deriving DecidableEq, Repr

structure Item where
  name : String
  shape : Shape
  /-- The item has generic parameters. -/
  isGeneric : Bool
  attributes : List Attribute
deriving DecidableEq, Repr

/-- What a declaration makes of an item. -/
structure Declared where
  name : String
  attributes : List Attribute
  /-- How the identifiers begin. -/
  lead : Option String
  /-- What the identifiers are called. -/
  label : Option String
  /-- The implemented traits, in order. -/
  traits : List String
deriving DecidableEq, Repr

/-- What every type of identifiers derives. -/
def identifierDerives : List Path :=
  ["Clone", "Debug", "PartialEq", "Eq", "Hash", "PartialOrd", "Ord"].map Path.ofName

/-- What every type of values derives. -/
def valueDerives (debug : Bool) : List Path :=
  (if debug then ["Clone", "Debug", "PartialEq", "Eq"] else ["Clone", "PartialEq", "Eq"]).map
    Path.ofName

/-- What every type of identifiers implements. -/
def identifierTraits (name : String) : List String :=
  ["(inherent)", "Identifier", "Display", "FromStr", "TryFrom<String>", "TryFrom<&str>",
    "From<" ++ name ++ ">", "AsRef<str>", "Serialize", "Deserialize<'de>"]

/-- The item can become a type of identifiers. -/
def checkIdentifierItem (item : Item) : Except DeclarationError Unit :=
  match item.shape with
  | .enumeration | .other => .error .identifierNotStruct
  | shape =>
      if item.isGeneric then .error .identifierGeneric
      else
        match shape with
        | .tuple [field] =>
            if field.isString then .ok () else .error .identifierFieldType
        | .tuple _ => .error .identifierFieldCount
        | _ => .error .identifierNotTuple

/-- What an item becomes as a type of identifiers.  They are called like the type, and
begin with nothing, unless the arguments say otherwise. -/
def IdentifierArguments.declare (arguments : IdentifierArguments) (item : Item) :
    Except DeclarationError Declared := do
  checkIdentifierItem item
  return {
    name := item.name
    attributes := mergeDerives item.attributes identifierDerives
    lead := some (arguments.lead.getD "")
    label := some (arguments.label.getD item.name)
    traits := identifierTraits item.name }

def ValueArguments.declare (arguments : ValueArguments) (item : Item) :
    Except DeclarationError Declared := do
  match item.shape with
  | .other => throw .valueNotData
  | _ =>
      return {
        name := item.name
        attributes := mergeDerives item.attributes (valueDerives arguments.derivesDebug)
        lead := none
        label := none
        traits := [] }

end Cqrs.Declaration
