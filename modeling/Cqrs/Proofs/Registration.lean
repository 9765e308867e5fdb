/-
# Proofs.Registration -- what is registered and bound, read off the changes

Ids are registered for kinds of request, and things are bound and unbound under ids, in any order
and between requests.  The changes made so far are a list (`Operation.allChanges`); a handler may
also unbind something while it runs, which counts as a change at that moment.  The tables of a
broker hold what came last in this list (`Agrees`).

* `Agrees.make`, `Agrees.loosens` -- what one change, and what one request, makes of the tables;
* `Operation.carryOut_agrees`, `Operation.runAll_agrees` -- so the tables hold what came last;
* `Operation.allChanges_of_lasting` -- where no handler unbinds anything, requests change nothing.
-/
import Cqrs.Proofs.Frame
import Mathlib.Data.List.Basic

namespace Cqrs

set_option autoImplicit false

variable {A : Application}

/-! ## Requests, changes and operations -/

/-- A kind of request, which one of the two buses takes. -/
inductive RequestKind (A : Application) where
  | command (kind : A.Command)
  | query (kind : A.Query)

namespace RequestKind

/-- The name of the kind, which other kinds may share. -/
def name : RequestKind A → String
  | .command kind => A.commandName kind
  | .query kind => A.queryName kind

def role : RequestKind A → HandlerRole
  | .command _ => .command
  | .query _ => .query

/-- The record of the log about a request that no handler is registered for. -/
def warning : RequestKind A → LogRecord
  | .command kind => ⟨.warn, "no command handler registered",
      [("command", .text (A.commandName kind))]⟩
  | .query kind => ⟨.warn, "no query handler registered", [("query", .text (A.queryName kind))]⟩

end RequestKind

namespace Broker

/-- Registers the id of the handler of a kind of request, on the bus that takes it. -/
def register (broker : Broker A) (handler : String) : RequestKind A → Broker A
  | .command kind => broker.registerCommand kind handler
  | .query kind => broker.registerQuery kind handler

/-- The id that is registered for a kind of request. -/
def registered? (broker : Broker A) : RequestKind A → Option String
  | .command kind => broker.commands.get? kind
  | .query kind => broker.queries.get? kind

end Broker

/-- A change of what is bound in the container or registered on a bus. -/
inductive Change (A : Application) where
  | bound (id : String) (binding : Binding A)
  | unbound (id : String)
  | registered (request : RequestKind A) (handler : String)

namespace Change

def make : Change A → Broker A → Broker A
  | .bound id binding, broker => broker.bind id binding
  | .unbound id, broker => broker.unbind id
  | .registered request handler, broker => broker.register handler request

def id? : Change A → Option String
  | .bound id _ | .unbound id => some id
  | .registered _ _ => none

def request? : Change A → Option (RequestKind A)
  | .registered request _ => some request
  | .bound _ _ | .unbound _ => none

end Change

/-- The ids under which something was bound before and nothing is after. -/
def Broker.dropped (before after : Broker A) : List String :=
  before.container.keys.filter fun id => !after.container.has id

/-- A change, or a request to one of the two buses. -/
inductive Operation (A : Application) where
  | make (change : Change A)
  | dispatch (context : Context) (kind : A.Command) (payload : A.Payload kind)
  | ask (context : Context) (kind : A.Query) (question : A.Question kind)

namespace Operation

def carryOut (depth : Nat) : Operation A → Broker A → Broker A
  | .make change, broker => change.make broker
  | .dispatch context kind payload, broker => (Broker.dispatch depth context kind payload broker).2
  | .ask context kind question, broker => (Broker.ask depth context kind question broker).2

def runAll (depth : Nat) (operations : List (Operation A)) (broker : Broker A) : Broker A :=
  operations.foldl (fun broker operation => operation.carryOut depth broker) broker

def change? : Operation A → Option (Change A)
  | .make change => some change
  | .dispatch _ _ _ | .ask _ _ _ => none

/-- The changes that an operation makes: the one that it is, or the bindings removed in the run of
a request. -/
def changes (depth : Nat) (operation : Operation A) (broker : Broker A) : List (Change A) :=
  match operation with
  | .make change => [change]
  | request => (broker.dropped (request.carryOut depth broker)).map .unbound

def allChanges (depth : Nat) : List (Operation A) → Broker A → List (Change A)
  | [], _ => []
  | operation :: rest, broker =>
      operation.changes depth broker ++ allChanges depth rest (operation.carryOut depth broker)

end Operation

/-! ## What the changes tell -/

/-- The change is the last of those that concern something. -/
def Last (concerns : Change A → Prop) (changes : List (Change A)) (change : Change A) : Prop :=
  ∃ earlier later, changes = earlier ++ change :: later ∧ ∀ other ∈ later, ¬ concerns other

def NeverRegistered (changes : List (Change A)) (request : RequestKind A) : Prop :=
  ∀ change ∈ changes, change.request? ≠ some request

/-- The id is the last one that was registered for the kind of request. -/
def LastRegistered (changes : List (Change A)) (request : RequestKind A) (id : String) : Prop :=
  Last (fun change => change.request? = some request) changes (.registered request id)

/-- Nothing was bound under the id since it was last unbound, or ever. -/
def Unbound (changes : List (Change A)) (id : String) : Prop :=
  (∀ change ∈ changes, change.id? ≠ some id) ∨
    Last (fun change => change.id? = some id) changes (.unbound id)

/-- This was bound under the id, and the id was neither bound again nor unbound since. -/
def LastBound (changes : List (Change A)) (id : String) (binding : Binding A) : Prop :=
  Last (fun change => change.id? = some id) changes (.bound id binding)

theorem last_concat {concerns : Change A → Prop} {changes : List (Change A)}
    {latest change : Change A} :
    Last concerns (changes ++ [latest]) change ↔
      latest = change ∨ Last concerns changes change ∧ ¬ concerns latest := by
  constructor
  · rintro ⟨earlier, later, split, unconcerned⟩
    rcases later.eq_nil_or_concat' with rfl | ⟨others, other, rfl⟩
    · obtain ⟨-, same⟩ := List.append_inj' split rfl
      exact Or.inl (List.singleton_inj.mp same)
    · rw [← List.cons_append, ← List.append_assoc] at split
      obtain ⟨rfl, same⟩ := List.append_inj' split rfl
      obtain rfl := List.singleton_inj.mp same
      refine Or.inr ⟨⟨earlier, others, rfl, fun other member => ?_⟩, ?_⟩
      · exact unconcerned other (List.mem_append_left _ member)
      · exact unconcerned latest (List.mem_append_right _ (List.mem_singleton_self _))
  · rintro (rfl | ⟨⟨earlier, later, rfl, unconcerned⟩, apart⟩)
    · exact ⟨changes, [], rfl, fun _ member => (List.not_mem_nil member).elim⟩
    · refine ⟨earlier, later ++ [latest], by simp, fun other member => ?_⟩
      rcases List.mem_append.mp member with inLater | last
      · exact unconcerned other inLater
      · rw [List.mem_singleton.mp last]
        exact apart

/-- A change that does not concern something leaves the last one that does what it was. -/
theorem last_concat_apart {concerns : Change A → Prop} {changes : List (Change A)}
    {latest change : Change A} (concerned : concerns change) (apart : ¬ concerns latest) :
    Last concerns (changes ++ [latest]) change ↔ Last concerns changes change := by
  rw [last_concat]
  constructor
  · rintro (rfl | ⟨last, -⟩)
    · exact absurd concerned apart
    · exact last
  · exact fun last => Or.inr ⟨last, apart⟩

/-- After a change that concerns something, it is the last one that does. -/
theorem last_concat_own {concerns : Change A → Prop} {changes : List (Change A)}
    {latest change : Change A} (concerned : concerns latest) :
    Last concerns (changes ++ [latest]) change ↔ latest = change := by
  rw [last_concat]
  constructor
  · rintro (same | ⟨-, apart⟩)
    · exact same
    · exact absurd concerned apart
  · exact Or.inl

/-- What the tables of a broker hold is what the changes tell. -/
structure Agrees (changes : List (Change A)) (broker : Broker A) : Prop where
  unregistered : ∀ request, broker.registered? request = none ↔ NeverRegistered changes request
  registered : ∀ request id,
    broker.registered? request = some id ↔ LastRegistered changes request id
  unbound : ∀ id, broker.container.get? id = none ↔ Unbound changes id
  bound : ∀ id binding, broker.container.get? id = some binding ↔ LastBound changes id binding

theorem start_agrees (state : A.State) : Agrees [] (Broker.start state : Broker A) where
  unregistered request := by
    cases request <;> exact ⟨fun _ _ member => (List.not_mem_nil member).elim, fun _ => rfl⟩
  registered request id := by
    have nothing : ¬ LastRegistered ([] : List (Change A)) request id := by
      rintro ⟨earlier, later, split, -⟩
      simp at split
    cases request <;> exact ⟨fun found => (nomatch found), fun last => (nothing last).elim⟩
  unbound id := ⟨fun _ => Or.inl fun _ member => (List.not_mem_nil member).elim, fun _ => rfl⟩
  bound id binding := by
    constructor
    · intro found
      cases found
    · rintro ⟨earlier, later, split, -⟩
      simp at split

/-! ## What changes make of the tables -/

namespace Broker

theorem registered?_register (broker : Broker A) (request : RequestKind A) (handler : String) :
    (broker.register handler request).registered? request = some handler := by
  cases request with
  | command kind => exact (Table.get?_put ..).trans (if_pos rfl)
  | query kind => exact (Table.get?_put ..).trans (if_pos rfl)

theorem registered?_register_apart (broker : Broker A) {request other : RequestKind A}
    (handler : String) (apart : other ≠ request) :
    (broker.register handler other).registered? request = broker.registered? request := by
  cases other with
  | command kind =>
      cases request with
      | command sought =>
          refine (Table.get?_put ..).trans (if_neg fun same => apart ?_)
          rw [same]
      | query sought => rfl
  | query kind =>
      cases request with
      | command sought => rfl
      | query sought =>
          refine (Table.get?_put ..).trans (if_neg fun same => apart ?_)
          rw [same]

end Broker

namespace Change

theorem eq_registered {change : Change A} {request : RequestKind A}
    (concerns : change.request? = some request) :
    ∃ handler, change = .registered request handler := by
  cases change with
  | registered other handler => exact ⟨handler, by rw [Option.some.inj concerns]⟩
  | bound | unbound => cases concerns

theorem eq_bound_or_unbound {change : Change A} {id : String} (concerns : change.id? = some id) :
    (∃ binding, change = .bound id binding) ∨ change = .unbound id := by
  cases change with
  | bound other binding => exact Or.inl ⟨binding, by rw [Option.some.inj concerns]⟩
  | unbound other => exact Or.inr (by rw [Option.some.inj concerns])
  | registered => cases concerns

theorem registered?_make_apart {change : Change A} {request : RequestKind A} (broker : Broker A)
    (apart : change.request? ≠ some request) :
    (change.make broker).registered? request = broker.registered? request := by
  cases change with
  | registered other handler =>
      exact broker.registered?_register_apart handler fun same => apart (congrArg some same)
  | bound | unbound => cases request <;> rfl

theorem get?_make_apart {change : Change A} {id : String} (broker : Broker A)
    (apart : change.id? ≠ some id) :
    (change.make broker).container.get? id = broker.container.get? id := by
  cases change with
  | bound other binding =>
      exact (Table.get?_put ..).trans (if_neg fun same => apart (congrArg some same))
  | unbound other =>
      exact (Table.get?_erase ..).trans (if_neg fun same => apart (congrArg some same))
  | registered request handler => cases request <;> rfl

end Change

namespace Agrees

variable {changes : List (Change A)} {broker : Broker A}

/-- One change makes of the tables what the longer list tells. -/
theorem make (agrees : Agrees changes broker) (change : Change A) :
    Agrees (changes ++ [change]) (change.make broker) where
  unregistered request := by
    have concat : NeverRegistered (changes ++ [change]) request ↔
        NeverRegistered changes request ∧ change.request? ≠ some request := by
      simp [NeverRegistered, or_imp, forall_and]
    rw [concat, ← agrees.unregistered]
    by_cases concerns : change.request? = some request
    · obtain ⟨handler, rfl⟩ := change.eq_registered concerns
      simp [Change.make, broker.registered?_register, concerns]
    · rw [change.registered?_make_apart broker concerns]
      simp [concerns]
  registered request id := by
    by_cases concerns : change.request? = some request
    · obtain ⟨handler, rfl⟩ := change.eq_registered concerns
      rw [LastRegistered, last_concat_own concerns]
      simp [Change.make, broker.registered?_register]
    · rw [change.registered?_make_apart broker concerns, agrees.registered]
      exact Iff.symm (last_concat_apart rfl concerns)
  unbound id := by
    by_cases concerns : change.id? = some id
    · have last : Unbound (changes ++ [change]) id ↔ change = .unbound id := by
        rw [Unbound, last_concat_own concerns, or_iff_right]
        intro never
        exact never change (List.mem_append_right _ (List.mem_singleton_self _)) concerns
      rw [last]
      rcases change.eq_bound_or_unbound concerns with ⟨binding, rfl⟩ | rfl
      · simp [Change.make, Broker.bind, Table.get?_put]
      · simp [Change.make, Broker.unbind, Table.get?_erase]
    · have last : Last (fun change => change.id? = some id) (changes ++ [change]) (.unbound id) ↔
          Last (fun change => change.id? = some id) changes (.unbound id) :=
        last_concat_apart rfl concerns
      rw [change.get?_make_apart broker concerns, agrees.unbound, Unbound, Unbound, last]
      simp [or_imp, forall_and, concerns]
  bound id binding := by
    by_cases concerns : change.id? = some id
    · rw [LastBound, last_concat_own concerns]
      rcases change.eq_bound_or_unbound concerns with ⟨other, rfl⟩ | rfl
      · simp [Change.make, Broker.bind, Table.get?_put]
      · simp [Change.make, Broker.unbind, Table.get?_erase]
    · rw [change.get?_make_apart broker concerns, agrees.bound]
      exact Iff.symm (last_concat_apart rfl concerns)

/-- Brokers with the same look-ups agree with the same changes. -/
theorem of_lookups {after : Broker A} (agrees : Agrees changes broker)
    (registered : ∀ request, after.registered? request = broker.registered? request)
    (bound : ∀ id, after.container.get? id = broker.container.get? id) : Agrees changes after where
  unregistered request := by rw [registered, agrees.unregistered]
  registered request id := by rw [registered, agrees.registered]
  unbound id := by rw [bound, agrees.unbound]
  bound id binding := by rw [bound, agrees.bound]

/-- Ids unbound one after another. -/
theorem unbindAll (agrees : Agrees changes broker) (ids : List String) :
    Agrees (changes ++ ids.map .unbound) (ids.foldl Broker.unbind broker) := by
  induction ids generalizing changes broker with
  | nil => simpa using agrees
  | cons id rest ih =>
      have later := ih (agrees.make (.unbound id))
      rwa [List.append_assoc] at later

end Agrees

/-! ## What requests make of the tables -/

namespace Broker

/-- Nothing was registered, and whatever is bound was bound before. -/
structure Loosens (before after : Broker A) : Prop where
  commands : after.commands = before.commands
  queries : after.queries = before.queries
  binds : after.BindsWithin before

theorem Loosens.refl (broker : Broker A) : Loosens broker broker := ⟨rfl, rfl, .refl broker⟩

theorem Loosens.trans {a b c : Broker A} (one : Loosens a b) (two : Loosens b c) :
    Loosens a c :=
  ⟨two.commands.trans one.commands, two.queries.trans one.queries, one.binds.trans two.binds⟩

theorem Loosens.registered? {before after : Broker A} (loosens : Loosens before after)
    (request : RequestKind A) : after.registered? request = before.registered? request := by
  cases request with
  | command kind => simp only [Broker.registered?, loosens.commands]
  | query kind => simp only [Broker.registered?, loosens.queries]

theorem mem_dropped {before after : Broker A} {id : String} :
    id ∈ before.dropped after ↔
      (∃ binding, before.container.get? id = some binding) ∧ after.container.get? id = none := by
  rw [dropped, List.mem_filter, ← Table.has_iff_mem_keys]
  simp [Table.has, Option.isSome_iff_exists]

theorem get?_unbindAll (ids : List String) (broker : Broker A) (id : String) :
    (ids.foldl unbind broker).container.get? id =
      if id ∈ ids then none else broker.container.get? id := by
  induction ids generalizing broker with
  | nil => simp
  | cons first rest ih =>
      rw [List.foldl_cons, ih, unbind, Table.get?_erase]
      by_cases later : id ∈ rest
      · simp [later]
      · simp [later, eq_comm]

theorem registered?_unbindAll (ids : List String) (broker : Broker A) (request : RequestKind A) :
    (ids.foldl unbind broker).registered? request = broker.registered? request := by
  induction ids generalizing broker with
  | nil => rfl
  | cons first rest ih =>
      rw [List.foldl_cons, ih]
      cases request <;> rfl

/-- What is bound after a run that loosens is what was bound before, but for what was dropped. -/
theorem Loosens.get? {before after : Broker A} (loosens : Loosens before after) (id : String) :
    after.container.get? id =
      ((before.dropped after).foldl unbind before).container.get? id := by
  rw [get?_unbindAll]
  cases held : after.container.get? id with
  | some binding =>
      have kept : id ∉ before.dropped after := by simp [mem_dropped, held]
      rw [if_neg kept, loosens.binds id binding held]
  | none =>
      by_cases gone : id ∈ before.dropped after
      · rw [if_pos gone]
      · have absent : before.container.get? id = none := by
          simpa [mem_dropped, held, Option.eq_none_iff_forall_ne_some] using gone
        rw [if_neg gone, absent]

theorem loosens_frame : Frame (fun _ => True) fun _ => Loosens (A := A) where
  refl _ broker := .refl broker
  trans := .trans
  binds loosens := loosens.binds
  effect effect flush broker _ plain := by
    cases effect with
    | unbind id => exact ⟨rfl, rfl, unbind_bindsWithin broker id⟩
    | note | log | inspect | update | publish | subscribe | pending | discard =>
        exact ⟨rfl, rfl, .refl broker⟩
    | flush bus => exact absurd rfl (plain bus)
  notified _ _ broker _ := ⟨rfl, rfl, .refl broker⟩
  flushed _ _ _ loosens := ⟨loosens.commands, loosens.queries, loosens.binds⟩

variable (depth : Nat) (context : Context)

theorem dispatch_loosens (kind : A.Command) (payload : A.Payload kind) (broker : Broker A) :
    Loosens broker (dispatch depth context kind payload broker).2 :=
  loosens_frame.containerDispatch (fun _ broker => ⟨rfl, rfl, .refl broker⟩)
    (fun _ _ _ broker => ⟨rfl, rfl, .refl broker⟩) (fun _ _ _ _ broker => ⟨rfl, rfl, .refl broker⟩)
    broker broker.eventsOnly_true broker.commandsOnly_true

theorem ask_loosens (kind : A.Query) (question : A.Question kind) (broker : Broker A) :
    Loosens broker (ask depth context kind question broker).2 :=
  loosens_frame.ask (fun _ broker => ⟨rfl, rfl, .refl broker⟩)
    (fun _ _ _ broker => ⟨rfl, rfl, .refl broker⟩) broker broker.eventsOnly_true
    broker.queriesOnly_true

end Broker

theorem Agrees.loosens {changes : List (Change A)} {before after : Broker A}
    (agrees : Agrees changes before) (loosens : before.Loosens after) :
    Agrees (changes ++ (before.dropped after).map .unbound) after := by
  refine (agrees.unbindAll (before.dropped after)).of_lookups (fun request => ?_) loosens.get?
  rw [loosens.registered?, Broker.registered?_unbindAll]

namespace Operation

theorem carryOut_agrees (depth : Nat) (operation : Operation A) {changes : List (Change A)}
    {broker : Broker A} (agrees : Agrees changes broker) :
    Agrees (changes ++ operation.changes depth broker) (operation.carryOut depth broker) := by
  cases operation with
  | make change => exact agrees.make change
  | dispatch context kind payload =>
      exact agrees.loosens (broker.dispatch_loosens depth context kind payload)
  | ask context kind question =>
      exact agrees.loosens (broker.ask_loosens depth context kind question)

/-- After any operations the tables hold what the changes tell. -/
theorem runAll_agrees (depth : Nat) (operations : List (Operation A)) {changes : List (Change A)}
    {broker : Broker A} (agrees : Agrees changes broker) :
    Agrees (changes ++ allChanges depth operations broker) (runAll depth operations broker) := by
  induction operations generalizing changes broker with
  | nil => simpa [allChanges, runAll] using agrees
  | cons operation rest ih =>
      have later := ih (operation.carryOut_agrees depth agrees)
      rwa [List.append_assoc] at later

end Operation

/-! ## Handlers that unbind nothing -/

/-- Effects other than removing a binding. -/
def Effect.KeepsBindings (effect : Effect A) : Prop := ∀ id, effect ≠ .unbind id

/-- What is bound is no handler, or one that removes no binding. -/
def Binding.Lasting : Binding A → Prop
  | .command _ handle => ∀ context payload, (handle context payload).Only Effect.KeepsBindings
  | .query _ answer => ∀ context question, (answer context question).Only Effect.KeepsBindings
  | .event handle => ∀ event, (handle event).Only Effect.KeepsBindings
  | .text _ | .number _ | .object => True

namespace Broker

def Lasting (broker : Broker A) : Prop :=
  ∀ id binding, broker.container.get? id = some binding → binding.Lasting

theorem Loosens.lasting {before after : Broker A} (loosens : before.Loosens after)
    (lasting : before.Lasting) : after.Lasting :=
  fun id binding bound => lasting id binding (loosens.binds id binding bound)

theorem container_frame : Frame (A := A) Effect.KeepsBindings fun _ before after =>
    after.container = before.container where
  refl _ _ := rfl
  trans one two := two.trans one
  binds same id binding bound := by rwa [same] at bound
  effect effect flush broker keeps plain := by
    cases effect with
    | unbind id => exact absurd rfl (keeps id)
    | flush bus => exact absurd rfl (plain bus)
    | note | log | inspect | update | publish | subscribe | pending | discard => rfl
  notified _ _ _ _ := rfl
  flushed _ _ _ same := same

variable (depth : Nat) (context : Context) {broker : Broker A}

theorem dispatch_container (lasting : broker.Lasting) (kind : A.Command)
    (payload : A.Payload kind) :
    (dispatch depth context kind payload broker).2.container = broker.container :=
  container_frame.containerDispatch (fun _ _ => rfl) (fun _ _ _ _ => rfl) (fun _ _ _ _ _ => rfl)
    broker (fun id _ bound => lasting id _ bound) (fun id _ _ bound => lasting id _ bound)

theorem ask_container (lasting : broker.Lasting) (kind : A.Query) (question : A.Question kind) :
    (ask depth context kind question broker).2.container = broker.container :=
  container_frame.ask (fun _ _ => rfl) (fun _ _ _ _ => rfl) broker
    (fun id _ bound => lasting id _ bound) (fun id _ _ bound => lasting id _ bound)

/-- Nothing was registered or bound, and no binding was removed if no handler removes one. -/
structure Keeps (before after : Broker A) : Prop where
  loosens : Loosens before after
  container : before.Lasting → after.container = before.container

theorem keeps_frame : Frame (A := A) Effect.KeepsBindings fun _ => Keeps where
  refl _ broker := ⟨.refl broker, fun _ => rfl⟩
  trans := by
    intro batch a b c one two
    refine ⟨one.loosens.trans two.loosens, fun lasting => ?_⟩
    rw [two.container (one.loosens.lasting lasting), one.container lasting]
  binds keeps := keeps.loosens.binds
  effect {batch} effect flush broker keeps plain :=
    ⟨@Frame.effect _ _ _ loosens_frame batch effect flush broker trivial plain,
      fun _ => @Frame.effect _ _ _ container_frame batch effect flush broker keeps plain⟩
  notified _ _ broker _ := ⟨⟨rfl, rfl, .refl broker⟩, fun _ => rfl⟩
  flushed _ _ _ keeps :=
    ⟨⟨keeps.loosens.commands, keeps.loosens.queries, keeps.loosens.binds⟩, keeps.container⟩

/-- No number of layers registers or binds anything, or removes a binding by itself. -/
theorem commandDispatch_keeps (lasting : broker.Lasting) (bus : CommandBus) (kind : A.Command)
    (payload : A.Payload kind) :
    broker.Keeps (bus.dispatch depth context kind payload broker).2 :=
  keeps_frame.commandDispatch (fun _ broker => ⟨⟨rfl, rfl, .refl broker⟩, fun _ => rfl⟩)
    (fun _ _ _ broker => ⟨⟨rfl, rfl, .refl broker⟩, fun _ => rfl⟩)
    (fun broker _ => ⟨broker.dispatch_loosens depth context kind payload,
      fun lasting => broker.dispatch_container depth context lasting kind payload⟩)
    bus broker fun id _ bound => lasting id _ bound

theorem dropped_of_same {before after : Broker A} (same : after.container = before.container) :
    before.dropped after = [] := by
  refine List.eq_nil_iff_forall_not_mem.mpr fun id member => ?_
  obtain ⟨⟨binding, bound⟩, gone⟩ := mem_dropped.mp member
  rw [same, bound] at gone
  cases gone

end Broker

theorem Change.make_lasting {change : Change A} {broker : Broker A} (lasting : broker.Lasting)
    (fresh : ∀ id binding, change = .bound id binding → binding.Lasting) :
    (change.make broker).Lasting := by
  intro id binding held
  by_cases concerns : change.id? = some id
  · rcases change.eq_bound_or_unbound concerns with ⟨other, rfl⟩ | rfl
    · have same : other = binding := by
        simpa [Change.make, Broker.bind, Table.get?_put] using held
      exact same ▸ fresh id other rfl
    · simp [Change.make, Broker.unbind, Table.get?_erase] at held
  · rw [change.get?_make_apart broker concerns] at held
    exact lasting id binding held

theorem Broker.start_lasting (state : A.State) : (Broker.start state : Broker A).Lasting :=
  fun _ _ bound => nomatch bound

namespace Operation

theorem carryOut_lasting (depth : Nat) (operation : Operation A) {broker : Broker A}
    (lasting : broker.Lasting)
    (fresh : ∀ id binding, operation = .make (.bound id binding) → binding.Lasting) :
    (operation.carryOut depth broker).Lasting := by
  cases operation with
  | make change =>
      exact change.make_lasting lasting fun id binding same => fresh id binding (congrArg _ same)
  | dispatch context kind payload =>
      exact (broker.dispatch_loosens depth context kind payload).lasting lasting
  | ask context kind question =>
      exact (broker.ask_loosens depth context kind question).lasting lasting

theorem runAll_lasting (depth : Nat) (operations : List (Operation A)) {broker : Broker A}
    (lasting : broker.Lasting)
    (fresh : ∀ id binding, .make (.bound id binding) ∈ operations → binding.Lasting) :
    (runAll depth operations broker).Lasting := by
  induction operations generalizing broker with
  | nil => exact lasting
  | cons operation rest ih =>
      have next := operation.carryOut_lasting depth lasting fun id binding same =>
        fresh id binding (same ▸ List.mem_cons_self ..)
      exact ih next fun id binding member => fresh id binding (List.mem_cons_of_mem _ member)

theorem changes_of_lasting (depth : Nat) (operation : Operation A) {broker : Broker A}
    (lasting : broker.Lasting) : operation.changes depth broker = operation.change?.toList := by
  cases operation with
  | make change => rfl
  | dispatch context kind payload =>
      have same := broker.dispatch_container depth context lasting kind payload
      simp only [changes, carryOut, Broker.dropped_of_same same, List.map_nil]
      rfl
  | ask context kind question =>
      have same := broker.ask_container depth context lasting kind question
      simp only [changes, carryOut, Broker.dropped_of_same same, List.map_nil]
      rfl

/-- Where no handler removes a binding, the changes are the operations that are changes. -/
theorem allChanges_of_lasting (depth : Nat) (operations : List (Operation A))
    {broker : Broker A} (lasting : broker.Lasting)
    (fresh : ∀ id binding, .make (.bound id binding) ∈ operations → binding.Lasting) :
    allChanges depth operations broker = operations.filterMap Operation.change? := by
  induction operations generalizing broker with
  | nil => rfl
  | cons operation rest ih =>
      have next := operation.carryOut_lasting depth lasting fun id binding same =>
        fresh id binding (same ▸ List.mem_cons_self ..)
      have later := ih next fun id binding member =>
        fresh id binding (List.mem_cons_of_mem _ member)
      rw [allChanges, operation.changes_of_lasting depth lasting, later]
      cases operation <;> rfl

end Operation

end Cqrs
