/-
# Identifier -- identifiers with a fixed beginning

An identifier of a kind is the kind's lead followed by one or more ASCII letters,
digits, dashes, dots or underscores.  `Identifier kind` holds the proof that its text
is accepted, so that no identifier exists without having passed `IdentifierKind.check`.
`Identifier.Route` lists the ways in which a text becomes one, and `Identifier.ofUuid`
makes a new one.
-/
import Cqrs.Json.Reading

namespace Cqrs

set_option autoImplicit false

/-- A universally unique identifier, as a number of 128 bits. -/
structure Uuid where
  bits : BitVec 128
deriving DecidableEq

namespace Uuid

/-- The lowest hexadecimal digits of a number, highest first. -/
def hexDigits : Nat → Nat → List Char
  | 0, _ => []
  | count + 1, n => hexDigits count (n / 16) ++ [Nat.digitChar (n % 16)]

/-- Thirty-two hexadecimal digits in groups of 8, 4, 4, 4 and 12. -/
def text (uuid : Uuid) : List Char :=
  let n := uuid.bits.toNat
  hexDigits 8 (n / Nat.pow 16 24) ++ '-' :: hexDigits 4 (n / Nat.pow 16 20) ++
    '-' :: hexDigits 4 (n / Nat.pow 16 16) ++ '-' :: hexDigits 4 (n / Nat.pow 16 12) ++
    '-' :: hexDigits 12 n

end Uuid

/-- The character may stand after the lead of an identifier. -/
def isIdentifierChar (c : Char) : Bool :=
  c.isAlphanum || c == '-' || c == '.' || c == '_'

/-- What the identifiers of one kind share. -/
structure IdentifierKind where
  /-- The name of the type of these identifiers. -/
  typeName : String
  /-- How each of them begins. -/
  lead : String
  /-- What they are called in the wording of errors. -/
  label : String
deriving DecidableEq, Repr

/-- Checks a text against the grammar of identifiers with this lead. -/
def checkIdentifier (lead label text : String) : Except DomainError Unit :=
  if text.toList.isEmpty then .error (.invalidValue s!"{label} cannot be empty")
  else
    match lead.toList.isPrefixOf? text.toList with
    | none => .error (.invalidValue (label ++ " must start with \"" ++ lead ++ "\""))
    | some rest =>
        if rest.isEmpty || !rest.all isIdentifierChar then
          .error (.invalidValue s!"{label} contains invalid characters")
        else .ok ()

namespace IdentifierKind

def check (kind : IdentifierKind) (text : String) : Except DomainError Unit :=
  checkIdentifier kind.lead kind.label text

end IdentifierKind

structure Identifier (kind : IdentifierKind) where
  text : String
  checked : kind.check text = .ok ()
deriving DecidableEq

theorem hexDigits_all (count n : Nat) : (Uuid.hexDigits count n).all isIdentifierChar = true := by
  induction count generalizing n with
  | zero => rfl
  | succ count ih =>
      have digit : ∀ d < 16, isIdentifierChar (Nat.digitChar d) = true := by decide
      simp [Uuid.hexDigits, List.all_append, ih, digit (n % 16) (Nat.mod_lt n (by decide))]

theorem Uuid.text_all (uuid : Uuid) : uuid.text.all isIdentifierChar = true := by
  have dash : isIdentifierChar '-' = true := by decide
  simp [Uuid.text, List.all_append, hexDigits_all, dash]

theorem Uuid.text_ne_nil (uuid : Uuid) : uuid.text.isEmpty = false := by
  simp [Uuid.text, Uuid.hexDigits]

theorem isPrefixOf?_append (lead rest : List Char) :
    lead.isPrefixOf? (lead ++ rest) = some rest := by
  induction lead with
  | nil => rfl
  | cons c lead ih =>
      show (if c == c then lead.isPrefixOf? (lead ++ rest) else none) = some rest
      simp [ih]

theorem IdentifierKind.check_generated (kind : IdentifierKind) (uuid : Uuid) :
    kind.check (String.ofList (kind.lead.toList ++ uuid.text)) = .ok () := by
  have long : (kind.lead.toList ++ uuid.text).isEmpty = false := by
    have := uuid.text_ne_nil
    cases h : uuid.text <;> simp_all
  simp only [IdentifierKind.check, checkIdentifier, String.toList_ofList, long,
    isPrefixOf?_append, uuid.text_ne_nil, uuid.text_all]
  rfl

namespace Identifier

variable {kind : IdentifierKind}

def parse (kind : IdentifierKind) (text : String) : Except DomainError (Identifier kind) :=
  match checked : kind.check text with
  | .ok () => .ok ⟨text, checked⟩
  | .error error => .error error

def ofJson (kind : IdentifierKind) : Json → Except DomainError (Identifier kind)
  | .string text =>
      match parse kind text with
      | .ok id => .ok id
      | .error error => .error (.serialization error.message)
  | value => .error (value.mismatch "a string")

def toJson (id : Identifier kind) : Json :=
  .string id.text

/-- The ways in which a text becomes an identifier. -/
inductive Route where
  /-- The kind is asked for it. -/
  | parsed
  /-- It is read as the spelling of a value. -/
  | spelled
  /-- A text that is given away is converted. -/
  | given
  /-- A text that is only lent is converted. -/
  | lent
  /-- It is the content of a JSON text. -/
  | deserialized
deriving DecidableEq, Repr

namespace Route

instance : Vocabulary Route where
  values := [.parsed, .spelled, .given, .lent, .deserialized]
  name
    | .parsed => "parse"
    | .spelled => "from_str"
    | .given => "try_from_string"
    | .lent => "try_from_str"
    | .deserialized => "deserialize"

def read (route : Route) (kind : IdentifierKind) (text : String) :
    Except DomainError (Identifier kind) :=
  match route with
  | .parsed | .spelled | .given | .lent => parse kind text
  | .deserialized => ofJson kind (.string text)

end Route

def ofUuid (kind : IdentifierKind) (uuid : Uuid) : Identifier kind :=
  ⟨String.ofList (kind.lead.toList ++ uuid.text), kind.check_generated uuid⟩

/-- Reading the identifier's text gives it again. -/
def readsBack (id : Identifier kind) : Bool :=
  match parse kind id.text with
  | .ok other => other == id
  | .error _ => false

/-- Puts an identifier into a row sorted by text, unless it is there. -/
def insertSorted (id : Identifier kind) : List (Identifier kind) → List (Identifier kind)
  | [] => [id]
  | other :: rest =>
      if id = other then other :: rest
      else if id.text < other.text then id :: other :: rest
      else other :: insertSorted id rest

def sortDistinct (ids : List (Identifier kind)) : List (Identifier kind) :=
  ids.foldl (fun sorted id => insertSorted id sorted) []

/-- The identifier spelled out with the name of its type. -/
def outline (id : Identifier kind) : String :=
  kind.typeName ++ "(" ++ Text.quoted id.text ++ ")"

end Identifier

end Cqrs
