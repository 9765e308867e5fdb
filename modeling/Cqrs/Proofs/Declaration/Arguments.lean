/-
# Proofs.Declaration.Arguments -- the arguments of declarations are taken exactly

Both declarations take arguments by rules of one form (`ArgumentRules`): some keys, each at most
once, with literals of one kind.  An argument after others is at fault for its key, for a key given
twice or for its literal, in this order (`ArgumentRules.Fault`).

`ArgumentRules.Followed` says that one step of a reader goes by the rules.  Then what it holds after
a row of arguments is what they give (`Took`), or it stopped at the first one at fault
(`Followed.run`), and reading is settled either way (`Followed.governs`).
-/
import Cqrs.Declaration.Item
import Mathlib.Data.List.Nodup

namespace Cqrs.Declaration

set_option autoImplicit false

def Literal.text? : Literal → Option String
  | .text value => some value
  | _ => none

def Literal.bool? : Literal → Option Bool
  | .bool value => some value
  | _ => none

/-! ## Rules -/

/-- What arguments a declaration takes, and how it refuses others. -/
structure ArgumentRules (α : Type) where
  keys : List String
  value? : Literal → Option α
  unknownKey : DeclarationError
  duplicateKey : DeclarationError
  wrongValue : String → DeclarationError

/-- Identifiers take texts for their beginning and for what they are called. -/
def identifierRules : ArgumentRules String where
  keys := ["prefix", "label"]
  value? := Literal.text?
  unknownKey := .unknownIdentifierKey
  duplicateKey := .duplicateIdentifierKey
  wrongValue := .expectedText

/-- Values take whether they show themselves. -/
def valueRules : ArgumentRules Bool where
  keys := ["debug"]
  value? := Literal.bool?
  unknownKey := .unknownValueKey
  duplicateKey := .duplicateValueKey
  wrongValue := .expectedBool

namespace ArgumentRules

variable {α σ : Type} {rules : ArgumentRules α}

/-- All keys are known, no two are one, and all literals are of the right kind. -/
structure Accepts (rules : ArgumentRules α) (arguments : List Argument) : Prop where
  known : ∀ argument ∈ arguments, argument.1 ∈ rules.keys
  distinct : (arguments.map Prod.fst).Nodup
  fitting : ∀ argument ∈ arguments, ∃ value, rules.value? argument.2 = some value

/-- What is wrong with an argument after others. -/
inductive Fault (rules : ArgumentRules α) (earlier : List Argument) :
    Argument → DeclarationError → Prop
  | unknown {key : String} (literal : Literal) (unknown : key ∉ rules.keys) :
      Fault rules earlier (key, literal) rules.unknownKey
  | duplicate {key : String} (literal : Literal) (known : key ∈ rules.keys)
      (given : key ∈ earlier.map Prod.fst) : Fault rules earlier (key, literal) rules.duplicateKey
  | wrong {key : String} {literal : Literal} (known : key ∈ rules.keys)
      (fresh : key ∉ earlier.map Prod.fst) (unfit : rules.value? literal = none) :
      Fault rules earlier (key, literal) (rules.wrongValue key)

/-- The error is that of the first argument at fault. -/
def FirstFault (rules : ArgumentRules α) (arguments : List Argument) (error : DeclarationError) :
    Prop :=
  ∃ before argument after, arguments = before ++ argument :: after ∧ rules.Accepts before ∧
    rules.Fault before argument error

theorem Accepts.nil : rules.Accepts [] where
  known := nofun
  distinct := List.nodup_nil
  fitting := nofun

theorem Accepts.perm {arguments others : List Argument} (accepts : rules.Accepts arguments)
    (reordered : others.Perm arguments) : rules.Accepts others where
  known argument listed := accepts.known argument (reordered.mem_iff.mp listed)
  distinct := (reordered.map Prod.fst).nodup_iff.mpr accepts.distinct
  fitting argument listed := accepts.fitting argument (reordered.mem_iff.mp listed)

theorem Accepts.concat {earlier : List Argument} (accepts : rules.Accepts earlier) {key : String}
    {literal : Literal} {value : α} (known : key ∈ rules.keys) (fresh : key ∉ earlier.map Prod.fst)
    (fits : rules.value? literal = some value) : rules.Accepts (earlier ++ [(key, literal)]) where
  known := by
    rw [List.forall_mem_append, List.forall_mem_singleton]
    exact ⟨accepts.known, known⟩
  distinct := by
    rw [List.map_append, List.nodup_append_comm]
    exact List.nodup_cons.mpr ⟨fresh, accepts.distinct⟩
  fitting := by
    rw [List.forall_mem_append, List.forall_mem_singleton]
    exact ⟨accepts.fitting, value, fits⟩

/-- Arguments with one at fault are not accepted, whatever follows. -/
theorem Fault.not_accepts {before after : List Argument} {argument : Argument}
    {error : DeclarationError} (fault : rules.Fault before argument error) :
    ¬rules.Accepts (before ++ argument :: after) := by
  intro accepts
  have listed : argument ∈ before ++ argument :: after := by simp
  cases fault with
  | unknown literal unknown => exact unknown (accepts.known _ listed)
  | duplicate literal known given =>
      have distinct := accepts.distinct
      rw [List.map_append, List.map_cons] at distinct
      exact (List.nodup_append.mp distinct).2.2 _ given _ (List.mem_cons_self ..) rfl
  | wrong known fresh unfit =>
      obtain ⟨value, fits⟩ := accepts.fitting _ listed
      cases unfit.symm.trans fits

theorem Fault.unique {earlier : List Argument} {argument : Argument}
    {error other : DeclarationError} (one : rules.Fault earlier argument error)
    (another : rules.Fault earlier argument other) : error = other := by
  cases one with
  | unknown literal unknown =>
      cases another with
      | unknown => rfl
      | duplicate _ known | wrong known => exact absurd known unknown
  | duplicate literal known given =>
      cases another with
      | unknown _ unknown => exact absurd known unknown
      | duplicate => rfl
      | wrong _ fresh => exact absurd given fresh
  | wrong known fresh unfit =>
      cases another with
      | unknown _ unknown => exact absurd known unknown
      | duplicate _ _ given => exact absurd given fresh
      | wrong => rfl

/-! ## Readers -/

/-- One step of a reader goes by the rules. -/
structure Followed (rules : ArgumentRules α) (take : σ → Argument → Except DeclarationError σ)
    (held : σ → String → Option α) : Prop where
  unknown : ∀ taken key literal, key ∉ rules.keys →
    take taken (key, literal) = .error rules.unknownKey
  duplicate : ∀ taken key literal value, key ∈ rules.keys → held taken key = some value →
    take taken (key, literal) = .error rules.duplicateKey
  wrong : ∀ taken key literal, key ∈ rules.keys → held taken key = none →
    rules.value? literal = none → take taken (key, literal) = .error (rules.wrongValue key)
  fitting : ∀ taken key literal value, key ∈ rules.keys → held taken key = none →
    rules.value? literal = some value →
    ∃ next, take taken (key, literal) = .ok next ∧
      ∀ other, held next other = if other = key then some value else held taken other
  /-- Nothing is taken beside what is held. -/
  ext : ∀ taken other, held taken = held other → taken = other

/-- The arguments are accepted, and what is held is what they give. -/
structure Took (rules : ArgumentRules α) (held : String → Option α) (arguments : List Argument) :
    Prop where
  accepts : rules.Accepts arguments
  holds : ∀ key value, held key = some value ↔
    ∃ literal, (key, literal) ∈ arguments ∧ rules.value? literal = some value

namespace Took

variable {held : String → Option α} {arguments : List Argument}

theorem nil (empty : ∀ key, held key = none) : rules.Took held [] where
  accepts := .nil
  holds := by simp [empty]

theorem given_of_held {key : String} {value : α} (took : rules.Took held arguments)
    (given : held key = some value) : key ∈ arguments.map Prod.fst := by
  obtain ⟨literal, listed, -⟩ := (took.holds key value).mp given
  exact List.mem_map_of_mem listed

theorem held_of_given {key : String} (took : rules.Took held arguments)
    (given : key ∈ arguments.map Prod.fst) : ∃ value, held key = some value := by
  obtain ⟨argument, listed, rfl⟩ := List.mem_map.mp given
  obtain ⟨value, fits⟩ := took.accepts.fitting argument listed
  exact ⟨value, (took.holds _ _).mpr ⟨argument.2, listed, fits⟩⟩

theorem perm {others : List Argument} (took : rules.Took held arguments)
    (reordered : others.Perm arguments) : rules.Took held others where
  accepts := took.accepts.perm reordered
  holds key value := by
    rw [took.holds]
    exact exists_congr fun literal => and_congr_left fun _ => reordered.mem_iff.symm

/-- Arguments give one thing only. -/
theorem unique {other : String → Option α} (one : rules.Took held arguments)
    (another : rules.Took other arguments) : held = other := by
  funext key
  apply Option.ext
  intro value
  rw [one.holds, another.holds]

end Took

namespace Followed

variable {take : σ → Argument → Except DeclarationError σ} {held : σ → String → Option α}

/-- One more argument is taken, or is at fault and refused for it. -/
theorem step (followed : rules.Followed take held) {taken : σ} {earlier : List Argument}
    (took : rules.Took (held taken) earlier) (argument : Argument) :
    (∃ next, take taken argument = .ok next ∧ rules.Took (held next) (earlier ++ [argument])) ∨
      ∃ error, take taken argument = .error error ∧ rules.Fault earlier argument error := by
  obtain ⟨key, literal⟩ := argument
  by_cases known : key ∈ rules.keys
  swap
  · exact .inr ⟨_, followed.unknown taken key literal known, .unknown literal known⟩
  cases before : held taken key with
  | some value =>
      exact .inr ⟨_, followed.duplicate taken key literal value known before,
        .duplicate literal known (took.given_of_held before)⟩
  | none =>
      have fresh : key ∉ earlier.map Prod.fst := by
        intro given
        obtain ⟨value, present⟩ := took.held_of_given given
        cases before.symm.trans present
      cases fits : rules.value? literal with
      | none =>
          exact .inr ⟨_, followed.wrong taken key literal known before fits,
            .wrong known fresh fits⟩
      | some value =>
          obtain ⟨next, moved, after⟩ := followed.fitting taken key literal value known before fits
          refine .inl ⟨next, moved, took.accepts.concat known fresh fits, fun other content => ?_⟩
          rw [after]
          split
          · rename_i same
            subst same
            have only : ∀ written, (other, written) ∉ earlier := fun written listed =>
              fresh (List.mem_map_of_mem listed)
            simp [only, fits]
          · rename_i apart
            rw [took.holds]
            simp [apart]

/-- A row of arguments is taken, or is refused for the first one at fault. -/
theorem run (followed : rules.Followed take held) {taken : σ} {earlier : List Argument}
    (took : rules.Took (held taken) earlier) (rest : List Argument) :
    (∃ final, rest.foldlM take taken = .ok final ∧ rules.Took (held final) (earlier ++ rest)) ∨
      ∃ error before argument after, rest.foldlM take taken = .error error ∧
        rest = before ++ argument :: after ∧ rules.Accepts (earlier ++ before) ∧
        rules.Fault (earlier ++ before) argument error := by
  induction rest generalizing taken earlier with
  | nil => exact .inl ⟨taken, rfl, by rwa [List.append_nil]⟩
  | cons argument rest ih =>
      rw [List.foldlM_cons]
      rcases followed.step took argument with ⟨next, moved, more⟩ | ⟨error, refused, fault⟩
      · rw [moved]
        rcases ih more with ⟨final, taken, all⟩ | ⟨error, before, other, after, refused, same, rest⟩
        · rw [List.append_assoc] at all
          exact .inl ⟨final, taken, all⟩
        · rw [List.append_assoc] at rest
          exact .inr ⟨error, argument :: before, other, after, refused,
            congrArg (argument :: ·) same, rest⟩
      · rw [refused]
        refine .inr ⟨error, [], argument, rest, rfl, rfl, ?_, ?_⟩
        · rw [List.append_nil]
          exact took.accepts
        · rwa [List.append_nil]

variable {start : σ}

theorem ok_iff (followed : rules.Followed take held) (empty : ∀ key, held start key = none)
    {arguments : List Argument} {taken : σ} :
    arguments.foldlM take start = .ok taken ↔ rules.Took (held taken) arguments := by
  rcases followed.run (.nil empty) arguments with ⟨final, all, took⟩ | ⟨error, before, argument,
    after, refused, rfl, -, fault⟩
  · rw [all, Except.ok.injEq]
    constructor
    · rintro rfl
      exact took
    · intro other
      exact followed.ext final taken (took.unique other)
  · rw [refused]
    exact iff_of_false nofun fun took => fault.not_accepts took.accepts

theorem error_iff (followed : rules.Followed take held) (empty : ∀ key, held start key = none)
    {arguments : List Argument} {error : DeclarationError} :
    arguments.foldlM take start = .error error ↔ rules.FirstFault arguments error := by
  constructor
  · intro refused
    rcases followed.run (.nil empty) arguments with ⟨final, all, -⟩ | ⟨failure, before, argument,
      after, failed, same, accepts, fault⟩
    · cases all.symm.trans refused
    · cases failed.symm.trans refused
      exact ⟨before, argument, after, same, accepts, fault⟩
  · rintro ⟨before, argument, after, rfl, accepts, fault⟩
    rcases followed.run (.nil empty) before with ⟨final, all, took⟩ | ⟨_, front, other, back, -, rfl,
      -, earlier⟩
    · rw [List.foldlM_append, all]
      rcases followed.step took argument with ⟨next, -, more⟩ | ⟨failure, refused, other⟩
      · exact absurd more.accepts fault.not_accepts
      · show (argument :: after).foldlM take final = .error error
        rw [List.foldlM_cons, refused, fault.unique other]
        rfl
    · exact absurd accepts earlier.not_accepts

end Followed

/-- Reading goes by the rules: it accepts what they accept, holds what is given, in any order, and
refuses all else with the error of the first argument at fault. -/
structure Governs (rules : ArgumentRules α) (read : List Argument → Except DeclarationError σ)
    (held : σ → String → Option α) : Prop where
  accepted_iff : ∀ arguments, (∃ taken, read arguments = .ok taken) ↔ rules.Accepts arguments
  holds_iff : ∀ arguments taken, read arguments = .ok taken → ∀ key value,
    held taken key = some value ↔
      ∃ literal, (key, literal) ∈ arguments ∧ rules.value? literal = some value
  reordered : ∀ arguments others taken, read arguments = .ok taken → others.Perm arguments →
    read others = .ok taken
  refused_iff : ∀ arguments error,
    read arguments = .error error ↔ rules.FirstFault arguments error

/-- A reader that takes arguments one after another by the rules is governed by them. -/
theorem Followed.governs {take : σ → Argument → Except DeclarationError σ}
    {held : σ → String → Option α} (followed : rules.Followed take held)
    (all : σ → List Argument → Except DeclarationError σ)
    (nil : ∀ taken, all taken [] = .ok taken)
    (cons : ∀ taken argument rest,
      all taken (argument :: rest) = take taken argument >>= (all · rest))
    {start : σ} (empty : ∀ key, held start key = none) : rules.Governs (all start) held := by
  have folded : ∀ arguments taken, all taken arguments = arguments.foldlM take taken := by
    intro arguments
    induction arguments with
    | nil => exact nil
    | cons argument rest ih =>
        intro taken
        rw [cons, List.foldlM_cons, funext ih]
  have ok_iff : ∀ {arguments taken},
      all start arguments = .ok taken ↔ rules.Took (held taken) arguments := by
    intro arguments taken
    rw [folded, followed.ok_iff empty]
  have error_iff : ∀ {arguments error},
      all start arguments = .error error ↔ rules.FirstFault arguments error := by
    intro arguments error
    rw [folded, followed.error_iff empty]
  refine ⟨fun arguments => ⟨?_, ?_⟩, fun _ _ read => (ok_iff.mp read).holds,
    fun _ _ _ read reordered => ok_iff.mpr ((ok_iff.mp read).perm reordered),
    fun _ _ => error_iff⟩
  · rintro ⟨taken, read⟩
    exact (ok_iff.mp read).accepts
  · intro accepts
    cases read : all start arguments with
    | ok taken => exact ⟨taken, rfl⟩
    | error error =>
        obtain ⟨before, argument, after, rfl, -, fault⟩ := error_iff.mp read
        exact absurd accepts fault.not_accepts

end ArgumentRules

/-! ## The two declarations -/

namespace IdentifierArguments

def held (taken : IdentifierArguments) (key : String) : Option String :=
  if key = "prefix" then taken.lead else if key = "label" then taken.label else none

theorem followed : identifierRules.Followed take held where
  unknown taken key literal unknown := by
    simp only [identifierRules, List.mem_cons, List.not_mem_nil, or_false, not_or] at unknown
    rw [take, if_neg unknown.1, if_neg unknown.2]
    rfl
  duplicate taken key literal value known given := by
    simp only [identifierRules, List.mem_cons, List.not_mem_nil, or_false] at known
    rcases known with rfl | rfl
    · have lead : taken.lead = some value := given
      simp [take, lead, identifierRules]
    · have label : taken.label = some value := given
      simp [take, label, identifierRules]
  wrong taken key literal known free unfit := by
    simp only [identifierRules, List.mem_cons, List.not_mem_nil, or_false] at known
    rcases known with rfl | rfl
    · have lead : taken.lead = none := free
      cases literal <;> simp_all [take, identifierRules, Literal.text?]
    · have label : taken.label = none := free
      cases literal <;> simp_all [take, identifierRules, Literal.text?]
  fitting taken key literal value known free fits := by
    have text : literal = .text value := by
      cases literal <;> simp_all [identifierRules, Literal.text?]
    subst text
    simp only [identifierRules, List.mem_cons, List.not_mem_nil, or_false] at known
    rcases known with rfl | rfl
    · have lead : taken.lead = none := free
      refine ⟨{ taken with lead := some value }, by simp [take, lead], fun other => ?_⟩
      by_cases same : other = "prefix" <;> simp [held, same]
    · have label : taken.label = none := free
      refine ⟨{ taken with label := some value }, by simp [take, label], fun other => ?_⟩
      by_cases same : other = "label" <;> simp [held, same]
  ext taken other same := by
    have leads : taken.lead = other.lead := congrFun same "prefix"
    have labels : taken.label = other.label := congrFun same "label"
    cases taken
    cases other
    cases leads
    cases labels
    rfl

theorem takeAll_cons (taken : IdentifierArguments) (argument : Argument)
    (rest : List Argument) :
    taken.takeAll (argument :: rest) = taken.take argument >>= (takeAll · rest) := by
  rw [takeAll]
  cases taken.take argument <;> rfl

theorem governed : identifierRules.Governs read held :=
  followed.governs takeAll (fun _ => rfl) takeAll_cons fun key => by simp [held]

end IdentifierArguments

namespace ValueArguments

def held (taken : ValueArguments) (key : String) : Option Bool :=
  if key = "debug" then taken.debug else none

theorem followed : valueRules.Followed take held where
  unknown taken key literal unknown := by
    have apart : key ≠ "debug" := fun same => unknown (same ▸ List.mem_cons_self ..)
    rw [take, if_neg apart]
    rfl
  duplicate taken key literal value known given := by
    obtain rfl : key = "debug" := List.mem_singleton.mp known
    have debug : taken.debug = some value := given
    simp [take, debug, valueRules]
  wrong taken key literal known free unfit := by
    obtain rfl : key = "debug" := List.mem_singleton.mp known
    have debug : taken.debug = none := free
    cases literal <;> simp_all [take, valueRules, Literal.bool?]
  fitting taken key literal value known free fits := by
    have bool : literal = .bool value := by
      cases literal <;> simp_all [valueRules, Literal.bool?]
    subst bool
    obtain rfl : key = "debug" := List.mem_singleton.mp known
    have debug : taken.debug = none := free
    refine ⟨{ debug := some value }, by simp [take, debug], fun other => ?_⟩
    by_cases same : other = "debug" <;> simp [held, same]
  ext taken other same := by
    have debugs : taken.debug = other.debug := congrFun same "debug"
    cases taken
    cases other
    cases debugs
    rfl

theorem takeAll_cons (taken : ValueArguments) (argument : Argument)
    (rest : List Argument) :
    taken.takeAll (argument :: rest) = taken.take argument >>= (takeAll · rest) := by
  rw [takeAll]
  cases taken.take argument <;> rfl

theorem governed : valueRules.Governs read held :=
  followed.governs takeAll (fun _ => rfl) takeAll_cons fun key => by simp [held]

end ValueArguments

/-- What is given for a key is what is held, and nothing is held for a key that is not given. -/
theorem ArgumentRules.Governs.held_eq {α σ : Type} {rules : ArgumentRules α}
    {read : List Argument → Except DeclarationError σ} {held : σ → String → Option α}
    (governs : rules.Governs read held) {arguments : List Argument} {taken : σ}
    (accepted : read arguments = .ok taken) (key : String) :
    (∀ literal value, rules.value? literal = some value → (key, literal) ∈ arguments →
      held taken key = some value) ∧
    (key ∉ arguments.map Prod.fst → held taken key = none) := by
  have holds := governs.holds_iff arguments taken accepted key
  constructor
  · intro literal value fits given
    exact (holds value).mpr ⟨literal, given, fits⟩
  · intro absent
    cases present : held taken key with
    | none => rfl
    | some value =>
        obtain ⟨literal, given, -⟩ := (holds value).mp present
        exact absurd (List.mem_map_of_mem given) absent

theorem IdentifierArguments.declare_ok {taken : IdentifierArguments} {item : Item}
    {declared : Declared} (made : taken.declare item = .ok declared) :
    declared.lead = some (taken.lead.getD "") ∧
      declared.label = some (taken.label.getD item.name) := by
  unfold declare at made
  cases checked : checkIdentifierItem item with
  | error error =>
      rw [checked] at made
      cases made
  | ok _ =>
      rw [checked] at made
      cases made
      exact ⟨rfl, rfl⟩

/-- **Arguments are taken exactly.**  Both declarations go by their rules: arguments are accepted if
all keys are known, no key is given twice and all literals are of the right kind.  What is taken
then is what is given, whatever the order, and of other arguments the first at fault decides the
error: for its key, for a key given twice, or for its literal, in this order.  Identifiers begin as
given, else with nothing, and are called as given, else by the name of the type; values show
themselves as given, else they do. -/
theorem arguments_taken_exactly :
    identifierRules.Governs IdentifierArguments.read IdentifierArguments.held ∧
    valueRules.Governs ValueArguments.read ValueArguments.held ∧
    (∀ arguments taken item declared, IdentifierArguments.read arguments = .ok taken →
      taken.declare item = .ok declared →
      (∀ text, ("prefix", .text text) ∈ arguments → declared.lead = some text) ∧
      ("prefix" ∉ arguments.map Prod.fst → declared.lead = some "") ∧
      (∀ text, ("label", .text text) ∈ arguments → declared.label = some text) ∧
      ("label" ∉ arguments.map Prod.fst → declared.label = some item.name)) ∧
    (∀ arguments taken, ValueArguments.read arguments = .ok taken →
      (∀ value, ("debug", .bool value) ∈ arguments → taken.derivesDebug = value) ∧
      ("debug" ∉ arguments.map Prod.fst → taken.derivesDebug = true)) := by
  refine ⟨IdentifierArguments.governed, ValueArguments.governed, ?_, ?_⟩
  · intro arguments taken item declared accepted made
    obtain ⟨lead, label⟩ := IdentifierArguments.declare_ok made
    obtain ⟨leads, leadless⟩ := IdentifierArguments.governed.held_eq accepted "prefix"
    obtain ⟨labels, labelless⟩ := IdentifierArguments.governed.held_eq accepted "label"
    refine ⟨fun text given => ?_, fun absent => ?_, fun text given => ?_, fun absent => ?_⟩
    · have held : taken.lead = some text := leads (.text text) text rfl given
      rw [lead, held, Option.getD_some]
    · have held : taken.lead = none := leadless absent
      rw [lead, held, Option.getD_none]
    · have held : taken.label = some text := labels (.text text) text rfl given
      rw [label, held, Option.getD_some]
    · have held : taken.label = none := labelless absent
      rw [label, held, Option.getD_none]
  · intro arguments taken accepted
    obtain ⟨shows, silent⟩ := ValueArguments.governed.held_eq accepted "debug"
    refine ⟨fun value given => ?_, fun absent => ?_⟩
    · have held : taken.debug = some value := shows (.bool value) value rfl given
      rw [ValueArguments.derivesDebug, held, Option.getD_some]
    · have held : taken.debug = none := silent absent
      rw [ValueArguments.derivesDebug, held, Option.getD_none]

end Cqrs.Declaration
