/-
# Sample.Note -- small objects to try the building blocks with

Notes are events with nothing but an identifier and a type.  Documents are objects to
store, some of which break off every comparison; percentages are values with a rule; rows
are read models of named JSON values.
-/
import Cqrs.Event.Log
import Cqrs.Filter.Criterion
import Cqrs.Store
import Cqrs.ValueObject

namespace Cqrs.Sample

set_option autoImplicit false

/-- An event with nothing but an identifier and a type. -/
structure Note where
  id : String
  eventType : String
deriving DecidableEq, Repr

instance : DomainEvent Note where
  eventId := Note.id
  eventType := Note.eventType
  eventVersion _ := "1.0"
  payload note := .ofEntries [("id", .string note.id)]
  occurredAt _ := .epoch

abbrev documentKind : IdentifierKind := ⟨"DocumentId", "doc-", "DocumentId"⟩

abbrev orderKind : IdentifierKind := ⟨"OrderId", "ord-", "Order id"⟩

/-- Identifiers of tags, which begin with nothing. -/
abbrev tagKind : IdentifierKind := ⟨"TagId", "", "TagId"⟩

abbrev labelKind : IdentifierKind := ⟨"LabelId", "", "Étiquette"⟩

/-- Identifiers that begin with a letter beyond ASCII. -/
abbrev accentKind : IdentifierKind := ⟨"AccentId", "é-", "AccentId"⟩

structure Document where
  id : Identifier documentKind
  title : String
  events : EventLog Note
  /-- Comparing the document with a stored one breaks off. -/
  brittle : Bool := false

instance : Aggregate Document where
  kind := documentKind
  id := Document.id
  typeName := "document"
  withoutEvents document := { document with events := .empty }
  breaksComparison := Document.brittle

def documentResource : String := "Document"

/-- A share of a hundred. -/
structure Percentage where
  value : UInt64
deriving DecidableEq, Repr

namespace Percentage

instance : ValueObject Percentage where
  validate percentage :=
    if percentage.value ≤ 100 then .ok ()
    else .error (.invalidValue "percentage must be <= 100")

def make (value : UInt64) : Except DomainError Percentage :=
  ValueObject.validated { value := value }

def outline (percentage : Percentage) : String :=
  "Percentage \x7b value: " ++ toString percentage.value ++ " \x7d"

end Percentage

/-- A row of named JSON values, with its place among others. -/
structure Row where
  place : Nat
  content : Json

instance : Filter.Projection Row where
  filterable := ["id", "amount", "label", "flag", "data"]
  field? row name := row.content.get? name

end Cqrs.Sample
