/-
# Declaration.Arguments -- the arguments of the two declarations

Arguments come as pairs of a key and a literal.  They are read from the first pair on,
and the first pair that cannot be taken decides the error: an unknown key comes before a
key given twice, and that before a literal of the wrong kind.
-/
import Cqrs.Declaration.Literal
import Cqrs.Declaration.SyntaxError

namespace Cqrs.Declaration

set_option autoImplicit false

abbrev Argument := String × Literal

/-- Why a declaration is refused. -/
inductive DeclarationError where
  /-- The text of the arguments or of the item is none. -/
  | malformed (error : SyntaxError)
  | unknownIdentifierKey
  | duplicateIdentifierKey
  | expectedText (key : String)
  | unknownValueKey
  | duplicateValueKey
  | expectedBool (key : String)
  | identifierNotStruct
  | identifierGeneric
  | identifierFieldCount
  | identifierNotTuple
  | identifierFieldType
  | valueNotData
deriving DecidableEq, Repr

namespace DeclarationError

def message : DeclarationError → String
  | .malformed error => error.message
  | .unknownIdentifierKey => "unknown key in attribute; expected 'prefix' or 'label'"
  | .duplicateIdentifierKey => "duplicate key in attribute"
  | .expectedText key => s!"expected string literal for '{key}'"
  | .unknownValueKey => "unknown key in attribute; expected 'debug'"
  | .duplicateValueKey => "duplicate key 'debug' in attribute"
  | .expectedBool key => s!"expected boolean literal for '{key}'"
  | .identifierNotStruct => "#[entity_id] only on struct"
  | .identifierGeneric => "#[entity_id] does not support generics"
  | .identifierFieldCount => "#[entity_id] requires a tuple struct with exactly one field"
  | .identifierNotTuple => "#[entity_id] supports only tuple struct, e.g., struct X(String);"
  | .identifierFieldType => "#[entity_id] inner field must be String"
  | .valueNotData => "#[value_object] only supports struct or enum"

end DeclarationError

/-- The arguments of a declaration of identifiers, each perhaps left out. -/
structure IdentifierArguments where
  lead : Option String := none
  label : Option String := none
deriving DecidableEq, Repr

namespace IdentifierArguments

def take (taken : IdentifierArguments) (argument : Argument) :
    Except DeclarationError IdentifierArguments :=
  if argument.1 = "prefix" then
    match taken.lead, argument.2 with
    | some _, _ => .error .duplicateIdentifierKey
    | none, .text value => .ok { taken with lead := some value }
    | none, _ => .error (.expectedText "prefix")
  else if argument.1 = "label" then
    match taken.label, argument.2 with
    | some _, _ => .error .duplicateIdentifierKey
    | none, .text value => .ok { taken with label := some value }
    | none, _ => .error (.expectedText "label")
  else .error .unknownIdentifierKey

def takeAll (taken : IdentifierArguments) :
    List Argument → Except DeclarationError IdentifierArguments
  | [] => .ok taken
  | argument :: rest =>
      match taken.take argument with
      | .ok taken => taken.takeAll rest
      | .error error => .error error

def read (arguments : List Argument) : Except DeclarationError IdentifierArguments :=
  takeAll {} arguments

end IdentifierArguments

/-- The argument of a declaration of values, perhaps left out. -/
structure ValueArguments where
  debug : Option Bool := none
deriving DecidableEq, Repr

namespace ValueArguments

def take (taken : ValueArguments) (argument : Argument) :
    Except DeclarationError ValueArguments :=
  if argument.1 = "debug" then
    match taken.debug, argument.2 with
    | some _, _ => .error .duplicateValueKey
    | none, .bool value => .ok { debug := some value }
    | none, _ => .error (.expectedBool "debug")
  else .error .unknownValueKey

def takeAll (taken : ValueArguments) :
    List Argument → Except DeclarationError ValueArguments
  | [] => .ok taken
  | argument :: rest =>
      match taken.take argument with
      | .ok taken => taken.takeAll rest
      | .error error => .error error

def read (arguments : List Argument) : Except DeclarationError ValueArguments :=
  takeAll {} arguments

/-- Values show themselves unless that is turned off. -/
def derivesDebug (arguments : ValueArguments) : Bool :=
  arguments.debug.getD true

end ValueArguments

end Cqrs.Declaration
