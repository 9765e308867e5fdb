/-
# Proofs.Identifier -- the texts that are identifiers, by every route

The grammar of identifiers is said here without their reader: a kind admits its lead with one or
more letters, digits, dashes, dots and underscores after it (`IdentifierKind.Admits`), and what is
wrong with any other text is its emptiness, its beginning or what follows, in this order
(`IdentifierKind.Objects`).  The check is exact for both (`check_cases`, `check_error_iff`).

Every route to an identifier passes the check.  The routes take the same texts for the same
identifiers and refuse the others on the same grounds, in the words of the domain
(`Identifier.Route.read_ok_iff`, `Identifier.Route.read_error_iff`).  A JSON value is an identifier
only if it is what one is written as (`Identifier.ofJson_ok_iff`), and a UUID after the lead always
makes one (`IdentifierKind.admits_generated`).
-/
import Cqrs.Identifier
import Cqrs.Proofs.Json.Text
import Mathlib.Data.List.Basic
import Mathlib.Tactic.ByContra

namespace Cqrs

set_option autoImplicit false

/-! ## The grammar -/

/-- What may stand after the lead: the letters and digits of ASCII, the dash, the dot and the
underscore. -/
theorem isIdentifierChar_iff (c : Char) :
    isIdentifierChar c = true ↔ 'A' ≤ c ∧ c ≤ 'Z' ∨ 'a' ≤ c ∧ c ≤ 'z' ∨ '0' ≤ c ∧ c ≤ '9' ∨
      c = '-' ∨ c = '.' ∨ c = '_' := by
  unfold isIdentifierChar Char.isAlphanum Char.isAlpha Char.isUpper Char.isLower Char.isDigit
  simp only [Bool.or_eq_true, Bool.and_eq_true, decide_eq_true_eq, beq_iff_eq, Char.le_def,
    ge_iff_le, or_assoc]

namespace IdentifierKind

/-- The text is the lead of the kind with at least one character after it, and none but letters,
digits, dashes, dots and underscores. -/
def Admits (kind : IdentifierKind) (text : String) : Prop :=
  ∃ rest, text.toList = kind.lead.toList ++ rest ∧ rest ≠ [] ∧
    ∀ character ∈ rest, isIdentifierChar character = true

/-- What is wrong with a text that is no identifier of the kind, in words: it is empty, it does not
begin as it should, or what follows is not what may follow. -/
inductive Objects (kind : IdentifierKind) (text : String) : String → Prop
  | empty (nothing : text.toList = []) : Objects kind text s!"{kind.label} cannot be empty"
  | lead (something : text.toList ≠ []) (apart : ∀ rest, text.toList ≠ kind.lead.toList ++ rest) :
      Objects kind text (kind.label ++ " must start with \"" ++ kind.lead ++ "\"")
  | rest {rest : List Char} (something : text.toList ≠ [])
      (split : text.toList = kind.lead.toList ++ rest)
      (unfit : ¬(rest ≠ [] ∧ ∀ character ∈ rest, isIdentifierChar character = true)) :
      Objects kind text s!"{kind.label} contains invalid characters"

variable {kind : IdentifierKind} {text : String}

theorem Objects.not_admits {reason : String} (objection : kind.Objects text reason) :
    ¬kind.Admits text := by
  rintro ⟨rest, split, well⟩
  cases objection with
  | empty nothing =>
      rw [nothing] at split
      exact well.1 (List.append_eq_nil_iff.mp split.symm).2
  | lead _ apart => exact apart rest split
  | rest _ other unfit =>
      obtain rfl := List.append_cancel_left (split.symm.trans other)
      exact unfit well

/-- There is one objection at most. -/
theorem Objects.unique {one other : String} (first : kind.Objects text one)
    (second : kind.Objects text other) : one = other := by
  cases first with
  | empty nothing =>
      cases second with
      | empty => rfl
      | lead something | rest something => exact absurd nothing something
  | lead something apart =>
      cases second with
      | empty nothing => exact absurd nothing something
      | lead => rfl
      | rest _ split => exact absurd split (apart _)
  | rest something split =>
      cases second with
      | empty nothing => exact absurd nothing something
      | lead _ apart => exact absurd split (apart _)
      | rest => rfl

/-- The check takes what the grammar admits, and refuses with an objection otherwise. -/
theorem check_cases (kind : IdentifierKind) (text : String) :
    kind.check text = .ok () ∧ kind.Admits text ∨
      ∃ reason, kind.check text = .error (.invalidValue reason) ∧ kind.Objects text reason := by
  unfold check checkIdentifier
  by_cases nothing : text.toList = []
  · exact Or.inr ⟨_, if_pos (List.isEmpty_iff.mpr nothing), .empty nothing⟩
  · rw [if_neg fun empty => nothing (List.isEmpty_iff.mp empty)]
    split
    · rename_i apart
      refine Or.inr ⟨_, rfl, .lead nothing fun rest split => ?_⟩
      rw [split, isPrefixOf?_append] at apart
      cases apart
    · rename_i rest stripped
      have split := (List.isPrefixOf?_eq_some_iff_append_eq.mp stripped).symm
      by_cases well : rest ≠ [] ∧ ∀ character ∈ rest, isIdentifierChar character = true
      · refine Or.inl ⟨if_neg ?_, rest, split, well⟩
        simpa [well.1] using well.2
      · refine Or.inr ⟨_, if_pos ?_, .rest nothing split well⟩
        simpa [or_iff_not_imp_left] using well

theorem check_ok_iff : kind.check text = .ok () ↔ kind.Admits text := by
  rcases kind.check_cases text with ⟨checked, admits⟩ | ⟨reason, refused, objection⟩
  · exact iff_of_true checked admits
  · rw [refused]
    exact iff_of_false nofun objection.not_admits

/-- A text is refused with the objection to it. -/
theorem check_error_iff {failure : DomainError} :
    kind.check text = .error failure ↔
      ∃ reason, kind.Objects text reason ∧ failure = .invalidValue reason := by
  rcases kind.check_cases text with ⟨checked, admits⟩ | ⟨reason, refused, objection⟩
  · rw [checked]
    exact iff_of_false nofun fun ⟨_, objection, _⟩ => objection.not_admits admits
  · rw [refused]
    constructor
    · rintro ⟨⟩
      exact ⟨reason, objection, rfl⟩
    · rintro ⟨other, objected, rfl⟩
      rw [objection.unique objected]

end IdentifierKind

/-! ## Reading -/

theorem id_of_text {kind : IdentifierKind} {id other : Identifier kind} {text : String}
    (one : id.text = text) (two : other.text = text) : id = other := by
  cases id
  cases other
  cases one
  cases two
  rfl

namespace Identifier

variable {kind : IdentifierKind} {text : String}

theorem admits (id : Identifier kind) : kind.Admits id.text :=
  IdentifierKind.check_ok_iff.mp id.checked

/-- The texts of identifiers are those that the grammar admits. -/
theorem exists_text_iff : (∃ id : Identifier kind, id.text = text) ↔ kind.Admits text := by
  constructor
  · rintro ⟨id, rfl⟩
    exact id.admits
  · intro admits
    exact ⟨⟨text, IdentifierKind.check_ok_iff.mpr admits⟩, rfl⟩

/-- Reading an identifier's own text gives it again. -/
theorem parse_self (id : Identifier kind) : parse kind id.text = .ok id := by
  unfold parse
  split
  · rfl
  · rename_i error refused
    rw [id.checked] at refused
    cases refused

theorem parse_ok_iff {id : Identifier kind} : parse kind text = .ok id ↔ id.text = text := by
  constructor
  · intro parsed
    unfold parse at parsed
    split at parsed <;> cases parsed
    rfl
  · rintro rfl
    exact id.parse_self

theorem parse_error_iff {failure : DomainError} :
    parse kind text = .error failure ↔
      ∃ reason, kind.Objects text reason ∧ failure = .invalidValue reason := by
  rw [← IdentifierKind.check_error_iff]
  unfold parse
  split
  · rename_i checked
    exact ⟨nofun, fun refused => by cases checked.symm.trans refused⟩
  · rename_i error refused
    rw [refused, Except.error.injEq, Except.error.injEq]

/-- A JSON value is read as an identifier only if the identifier is written as it. -/
theorem ofJson_ok_iff {json : Json} {id : Identifier kind} :
    ofJson kind json = .ok id ↔ json = id.toJson := by
  constructor
  · intro read
    cases json with
    | string text =>
        cases parsed : parse kind text <;> simp only [ofJson, parsed] at read <;> cases read
        rw [toJson, parse_ok_iff.mp parsed]
    | null | bool | number | array | object => cases read
  · rintro rfl
    simp only [ofJson, toJson, parse_self]

/-! ## Routes -/

namespace Route

/-- The error with which a route refuses what the domain refuses: reading JSON passes on only what
the domain says. -/
def refusal : Route → DomainError → DomainError
  | .deserialized, error => .serialization error.message
  | _, error => error

theorem read_eq_parse (route : Route) (kind : IdentifierKind) (text : String) :
    route.read kind text = (parse kind text).mapError route.refusal := by
  cases parsed : parse kind text <;> cases route <;> simp only [read, ofJson, parsed] <;> rfl

variable (route : Route)

theorem read_ok_iff {id : Identifier kind} : route.read kind text = .ok id ↔ id.text = text := by
  rw [read_eq_parse, ← parse_ok_iff]
  cases parse kind text <;> simp [Except.mapError]

theorem read_error_iff {failure : DomainError} :
    route.read kind text = .error failure ↔
      ∃ reason, kind.Objects text reason ∧ failure = route.refusal (.invalidValue reason) := by
  rw [read_eq_parse]
  constructor
  · intro refused
    cases parsed : parse kind text <;> rw [parsed] at refused <;> cases refused
    obtain ⟨reason, objection, rfl⟩ := parse_error_iff.mp parsed
    exact ⟨reason, objection, rfl⟩
  · rintro ⟨reason, objection, rfl⟩
    rw [parse_error_iff.mpr ⟨reason, objection, rfl⟩]
    rfl

end Route

end Identifier

/-! ## Generated identifiers -/

/-- What the text of a UUID is made of: hexadecimal digits, small or capital, and dashes. -/
def uuidChars : List Char :=
  "0123456789abcdefABCDEF-".toList

theorem hexDigits_length (count n : Nat) : (Uuid.hexDigits count n).length = count := by
  induction count generalizing n with
  | zero => rfl
  | succ count ih => rw [Uuid.hexDigits, List.length_append, ih, List.length_singleton]

theorem hexDigits_chars (count n : Nat) : ∀ c ∈ Uuid.hexDigits count n, c ∈ uuidChars := by
  induction count generalizing n with
  | zero => exact fun c member => (List.not_mem_nil member).elim
  | succ count ih =>
      have digit : ∀ d < 16, Nat.digitChar d ∈ uuidChars := by decide
      intro c member
      rcases List.mem_append.mp member with higher | lowest
      · exact ih _ c higher
      · rw [List.mem_singleton.mp lowest]
        exact digit _ (Nat.mod_lt n (by decide))

theorem Uuid.text_length (uuid : Uuid) : uuid.text.length = 36 := by
  simp only [Uuid.text, List.length_append, List.length_cons, hexDigits_length]

theorem Uuid.text_chars (uuid : Uuid) : ∀ c ∈ uuid.text, c ∈ uuidChars := by
  have dash : '-' ∈ uuidChars := by decide
  intro c member
  simp only [Uuid.text, List.mem_append, List.mem_cons] at member
  rcases member with (((group | rfl | group) | rfl | group) | rfl | group) | rfl | group
  all_goals first | exact dash | exact hexDigits_chars _ _ c group

/-- A UUID after the lead is admitted. -/
theorem IdentifierKind.admits_generated (kind : IdentifierKind) {digits : List Char}
    (length : digits.length = 36) (chars : ∀ c ∈ digits, c ∈ uuidChars) :
    kind.Admits (String.ofList (kind.lead.toList ++ digits)) := by
  have admitted : uuidChars.all isIdentifierChar = true := by decide
  refine ⟨digits, String.toList_ofList, ?_,
    fun c member => List.all_eq_true.mp admitted c (chars c member)⟩
  rintro rfl
  cases length

/-- **Identifiers are read exactly by their grammar, by every route.**  Let a kind have any lead and
any label.  A text passes the check just if it is the lead with one or more letters, digits, dashes,
dots and underscores after it, and on any other one the check objects to its being empty, then to
its beginning, then to what follows.  All routes take these texts, each for the one identifier that
has it, and refuse the others with the same objection.  A JSON value is taken only if an identifier
is written as it, and what is printed of an identifier is read back as it, as is its text.  A UUID
after the lead makes an identifier, whatever hexadecimal digits and dashes it is made of, and two
identifiers are one just if their texts are. -/
theorem identifiers_read_by_grammar (kind : IdentifierKind) :
    (∀ c, isIdentifierChar c = true ↔ 'A' ≤ c ∧ c ≤ 'Z' ∨ 'a' ≤ c ∧ c ≤ 'z' ∨
      '0' ≤ c ∧ c ≤ '9' ∨ c = '-' ∨ c = '.' ∨ c = '_') ∧
    (∀ text, (checkIdentifier kind.lead kind.label text = .ok () ↔ kind.Admits text) ∧
      ∀ failure, checkIdentifier kind.lead kind.label text = .error failure ↔
        ∃ reason, kind.Objects text reason ∧ failure = .invalidValue reason) ∧
    (∀ (route : Identifier.Route) (text : String),
      (∀ id : Identifier kind, route.read kind text = .ok id ↔ id.text = text) ∧
      ((∃ id : Identifier kind, route.read kind text = .ok id) ↔ kind.Admits text) ∧
      ∀ failure, route.read kind text = .error failure ↔
        ∃ reason, kind.Objects text reason ∧ failure = route.refusal (.invalidValue reason)) ∧
    (∀ json (id : Identifier kind), Identifier.ofJson kind json = .ok id ↔ json = id.toJson) ∧
    (∀ id : Identifier kind,
      (Json.parse id.toJson.print).map (Identifier.ofJson kind) = .ok (.ok id) ∧
      ∀ route : Identifier.Route, route.read kind id.text = .ok id) ∧
    (∀ digits : List Char, digits.length = 36 → (∀ c ∈ digits, c ∈ uuidChars) →
      ∀ route : Identifier.Route, ∃ id : Identifier kind,
        route.read kind (String.ofList (kind.lead.toList ++ digits)) = .ok id) ∧
    (∀ uuid : Uuid, uuid.text.length = 36 ∧ (∀ c ∈ uuid.text, c ∈ uuidChars) ∧
      ∀ route : Identifier.Route,
        route.read kind (String.ofList (kind.lead.toList ++ uuid.text)) = .ok (.ofUuid kind uuid)) ∧
    ∀ one other : Identifier kind, one = other ↔ one.text = other.text := by
  refine ⟨isIdentifierChar_iff,
    fun text => ⟨IdentifierKind.check_ok_iff, fun _ => IdentifierKind.check_error_iff⟩,
    fun route text => ⟨fun id => route.read_ok_iff, ?_, fun failure => route.read_error_iff⟩,
    fun json id => Identifier.ofJson_ok_iff, fun id => ⟨?_, fun route => route.read_ok_iff.mpr rfl⟩,
    fun digits length chars route => ?_,
    fun uuid => ⟨uuid.text_length, uuid.text_chars, fun route => route.read_ok_iff.mpr rfl⟩,
    fun one other => ⟨congrArg _, fun same => id_of_text same rfl⟩⟩
  · simp only [route.read_ok_iff, Identifier.exists_text_iff]
  · rw [Identifier.toJson, Json.parse_print_string]
    exact congrArg Except.ok (Identifier.ofJson_ok_iff.mpr rfl)
  · obtain ⟨id, text⟩ := Identifier.exists_text_iff.mpr (kind.admits_generated length chars)
    exact ⟨id, route.read_ok_iff.mpr text⟩

/-- Any thirty-six digits and dashes will do, also after a lead beyond ASCII. -/
theorem identifiers_read_by_grammar_accented :
    "DEADBEEF----0123456789abcdef------42".toList.length = 36 ∧
      (∀ c ∈ "DEADBEEF----0123456789abcdef------42".toList, c ∈ uuidChars) ∧
      ∃ id : Identifier ⟨"AccentId", "é-", "AccentId"⟩,
        Identifier.Route.deserialized.read ⟨"AccentId", "é-", "AccentId"⟩
          "é-DEADBEEF----0123456789abcdef------42" = .ok id := by
  have among : "DEADBEEF----0123456789abcdef------42".toList.all (uuidChars.contains ·) = true := by
    decide
  have chars : ∀ c ∈ "DEADBEEF----0123456789abcdef------42".toList, c ∈ uuidChars :=
    fun c member => List.contains_iff_mem.mp (List.all_eq_true.mp among c member)
  refine ⟨rfl, chars, ?_⟩
  exact (identifiers_read_by_grammar ⟨"AccentId", "é-", "AccentId"⟩).2.2.2.2.2.1 _ rfl chars
    .deserialized

end Cqrs
