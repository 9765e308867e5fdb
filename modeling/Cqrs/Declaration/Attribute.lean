/-
# Declaration.Attribute -- attributes and the merging of derives

An attribute of a declaration is a list of paths to derive or something else, kept as
text.  `mergeDerives` puts one list of derives in front: the required paths, then those
derived before, each name once and the first path of a name kept.
-/
import Cqrs.Declaration.Path

namespace Cqrs.Declaration

set_option autoImplicit false

/-- An attribute of a declaration. -/
inductive Attribute where
  /-- A list of paths to derive. -/
  | derive (paths : List Path)
  /-- An attribute named like a list of derives that is none. -/
  | malformedDerive
  /-- Any other attribute, as text without blanks. -/
  | other (text : String)
deriving DecidableEq, Repr

namespace Attribute

/-- The attribute's text, without blanks. -/
def text : Attribute → String
  | .derive paths => "derive(" ++ ",".intercalate (paths.map Path.text) ++ ")"
  | .malformedDerive => "derive"
  | .other text => text

def derived : Attribute → List Path
  | .derive paths => paths
  | _ => []

/-- The attribute stays beside a list of derives. -/
def isOther : Attribute → Bool
  | .other _ => true
  | _ => false

end Attribute

/-- The first path of each name, in order, of names that were not seen before. -/
def firstByKey : List String → List Path → List Path
  | _, [] => []
  | seen, path :: rest =>
      if path.key ∈ seen then firstByKey seen rest
      else path :: firstByKey (path.key :: seen) rest

/-- One list of derives in front of the attributes that are none: the required paths and
those derived before, by name. -/
def mergeDerives (attributes : List Attribute) (required : List Path) : List Attribute :=
  .derive (firstByKey [] (required ++ attributes.flatMap Attribute.derived)) ::
    attributes.filter Attribute.isOther

end Cqrs.Declaration
