/-
# Record.Sample -- filters, notes and the notebook, as records
-/
import Cqrs.Record.Error
import Cqrs.Sample.Notebook

namespace Cqrs

set_option autoImplicit false

namespace Filter

variable {π : Type} [Projection π]

/-- Reads a criterion; without a value it is held against null. -/
def Criterion.ofJson (record : Json) : Decoded (Except AppError (Criterion π)) := do
  let field ← record.text "field"
  let operator ← record.text "operator"
  return do
    let operator ← Operator.parse operator
    Criterion.make π field operator ((record.get? "value").getD .null)

/-- Reads criteria; the first that is refused is told by its place. -/
def criteriaOfJson (records : List Json) :
    Decoded (Except (Nat × AppError) (List (Criterion π))) := do
  let criteria ← records.mapM Criterion.ofJson
  return criteria.zipIdx.mapM fun entry => entry.1.mapError fun error => (entry.2, error)

/-- A criterion as a record, with what it says of some projections. -/
def Criterion.fields (criterion : Criterion π) (items : List π) : List (String × Json) :=
  [("field", .string criterion.field), ("operator", .string criterion.operator.name),
    ("shape", .string criterion.value.shape),
    ("matches", .array (items.map fun item => .bool (criterion.isMetBy item)))]

end Filter

namespace Sample

def Note.ofJson (record : Json) : Decoded Note := do
  return ⟨← record.text "id", ← record.text "type"⟩

def notesOfJson (record : Json) (name : String) : Decoded (List Note) := do
  (← record.list name).mapM Note.ofJson

def Note.toJson (note : Note) : Json :=
  .ofEntries [("id", .string (DomainEvent.eventId note)),
    ("type", .string (DomainEvent.eventType note)), ("payload", DomainEvent.payload note),
    ("is_noted", .bool true)]

def Document.toJson (document : Document) : Json :=
  .ofEntries [("id", document.id.toJson), ("title", .string document.title),
    ("events", .texts document.events.ids)]

def NoteReaction.ofJson (record : Json) : Decoded NoteReaction := do
  let bus ← record.textOr "bus" "main"
  match ← record.text "kind" with
  | "record" => return .keep
  | "fail" => return .fail (← AppError.ofJson (← record.field "error")) (← record.text? "on")
  | "republish" => return .republish bus (← record.textOr "type" "next")
  | "flush" => return .flush bus
  | "discard" => return .discard bus
  | "subscribe" => return .subscribe (← record.text "type") (← record.text "handler")
  | "unbind" => return .unbind (← record.text "handler")
  | "pending" => return .pending bus
  | other => throw other

def NotebookCommand.ofWord? (word : String) : Option NotebookCommand :=
  [ping, pong, pingTwin, record, unregistered].find? (·.word == word)

def NotebookQuery.ofName? (name : String) : Option NotebookQuery :=
  [greet, count].find? (·.name == name)

/-- Reads what to bind: a handler of a request or of events, or something else. -/
def bindingOfJson (record : Json) : Decoded (Binding notebook) := do
  let name ← record.textOr "name" (← record.text "id")
  let failure ← record.read? "error" AppError.ofJson
  let what ← record.text "what"
  match NotebookCommand.ofWord? what, NotebookQuery.ofName? what with
  | some kind, _ => return commandBinding name failure kind
  | none, some kind => return queryBinding name failure kind
  | none, none =>
      match what with
      | "event" => return NoteReaction.keep.binding name
      | "concrete" => return .object
      | "string" => return .text (← record.text "value")
      | "number" => return .number (← (← record.field "value").asInt)
      | other => throw other

end Sample

end Cqrs
