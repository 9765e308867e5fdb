/-
# Declaration.Path -- paths to names

A path is a row of names with `::` between them, perhaps in front, and perhaps with
arguments in angle brackets.  What matters of one is its last name (`Path.key`); the rest
is kept as text without blanks.
-/

namespace Cqrs.Declaration

set_option autoImplicit false

/-- A path: what stands before its last name, the name, and the name's arguments. -/
structure Path where
  qualifier : String
  name : String
  arguments : String
deriving DecidableEq, Repr

namespace Path

def ofName (name : String) : Path := ⟨"", name, ""⟩

def text (path : Path) : String :=
  path.qualifier ++ path.name ++ path.arguments

/-- The name by which paths are told apart. -/
def key (path : Path) : String :=
  path.name

/-- The last name has no arguments, or brackets with nothing between them. -/
def isBare (path : Path) : Bool :=
  path.arguments.toList.all fun c => c == ':' || c == '<' || c == '>'

/-- No name has arguments, not even brackets with nothing between them. -/
def isPlain (path : Path) : Bool :=
  path.text.toList.all (· != '<')

end Path

/-- What a type is, as far as it matters: a path, or a single bound. -/
inductive TypeShape where
  /-- A path, and whether a type in angle brackets stands before it. -/
  | path (path : Path) (qualified : Bool)
  | bound
  | other
deriving DecidableEq, Repr

namespace TypeShape

def isString : TypeShape → Bool
  | .path whole _ => whole.name == "String" && whole.isBare
  | _ => false

end TypeShape

end Cqrs.Declaration
