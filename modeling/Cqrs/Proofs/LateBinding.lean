/-
# Proofs.LateBinding -- a request is decided by what was registered and bound last

Neither bus looks at anything but its registrations and the container, and at those only when a
request comes.  So what becomes of a request is read off the changes made so far: by the last
registration for its kind, and by the last change that concerns the registered id.

* `dispatch_routed`, `ask_routed` -- a bus goes by the tables, in one of four ways;
* `Routed.decided` -- the tables hold what came last, so a bus goes by the changes;
* `decided_by_latest` -- after any operations.
-/
import Cqrs.Proofs.Growth
import Cqrs.Proofs.Registration
import Cqrs.Sample.Notebook

namespace Cqrs

set_option autoImplicit false

variable {A : Application}

/-! ## What a bus does with a request -/

def Activity.Invokes : Activity A → Prop
  | .handled _ _ _ | .asked _ _ _ => True
  | _ => False

theorem Activity.OfHandlers.not_invokes {activity : Activity A} (own : activity.OfHandlers) :
    ¬ activity.Invokes := by
  cases activity <;> simp_all [Activity.OfHandlers, Activity.Invokes]

/-- The request is the one thing that a handler was given: this was added to the history first,
and nothing of the sort after it. -/
def GivenOnce (given : Activity A) (before after : Broker A) : Prop :=
  ∃ added, after.history = before.history ++ given :: added ∧
    ∀ activity ∈ added, ¬ activity.Invokes

section Routes

variable {H α : Type} (request : RequestKind A) (binding : H → Binding A)
  (given : String → Activity A) (invoke : String → H → Act A (Except AppError α))

/-- The ways of a request, by what the tables of the broker hold, with the run that each of them
comes to.  A handler of the request has this binding. -/
inductive Routed (broker : Broker A) : Option (Except AppError α) × Broker A → Prop
  | unregistered (nothing : broker.registered? request = none) :
      Routed broker (some (.error (.handlerNotFound request.role request.name)),
        broker.record (.logged request.warning))
  | unbound (id : String) (registered : broker.registered? request = some id)
      (nothing : broker.container.get? id = none) :
      Routed broker (some (.error (.unresolved id "no instance bound")), broker)
  | unfit (id : String) (found : Binding A) (registered : broker.registered? request = some id)
      (bound : broker.container.get? id = some found) (unfit : ∀ handle, found ≠ binding handle) :
      Routed broker (some (.error (.invalidHandler request.role request.name)), broker)
  | invoked (id : String) (handle : H) (registered : broker.registered? request = some id)
      (bound : broker.container.get? id = some (binding handle))
      (once : GivenOnce (given id) broker (invoke id handle (broker.record (given id))).2) :
      Routed broker (invoke id handle (broker.record (given id)))

/-- What a bus does with a request, by the changes made so far. -/
structure Decided (changes : List (Change A)) (broker : Broker A)
    (run : Option (Except AppError α) × Broker A) : Prop where
  exhaustive : NeverRegistered changes request ∨ ∃ id, LastRegistered changes request id ∧
    (Unbound changes id ∨ ∃ found, LastBound changes id found)
  notFound : run = (some (.error (.handlerNotFound request.role request.name)),
      broker.record (.logged request.warning)) ↔ NeverRegistered changes request
  unresolved : ∀ id, LastRegistered changes request id →
    (run = (some (.error (.unresolved id "no instance bound")), broker) ↔ Unbound changes id)
  invalid : ∀ id found, LastRegistered changes request id → LastBound changes id found →
    (run = (some (.error (.invalidHandler request.role request.name)), broker) ↔
      ∀ handle, found ≠ binding handle)
  invoked : ∀ id handle, LastRegistered changes request id →
    LastBound changes id (binding handle) →
      run = invoke id handle (broker.record (given id)) ∧ GivenOnce (given id) broker run.2

variable {request binding given invoke} {changes : List (Change A)} {broker : Broker A}
  {run : Option (Except AppError α) × Broker A}

theorem GivenOnce.ne {first : Activity A} {after : Broker A} (once : GivenOnce first broker after)
    (invokes : first.Invokes) (record : LogRecord) :
    after ≠ broker ∧ after ≠ broker.record (.logged record) := by
  obtain ⟨added, history, -⟩ := once
  constructor
  · rintro rfl
    simp at history
  · rintro rfl
    have same : broker.history ++ [.logged record] = broker.history ++ first :: added := history
    obtain ⟨rfl, -⟩ := List.cons.inj (List.append_cancel_left same)
    exact invokes

theorem Routed.decided (agrees : Agrees changes broker) (invokes : ∀ id, (given id).Invokes)
    (injective : Function.Injective binding)
    (routed : Routed request binding given invoke broker run) :
    Decided request binding given invoke changes broker run where
  exhaustive := by
    cases registered : broker.registered? request with
    | none => exact Or.inl ((agrees.unregistered request).mp registered)
    | some id =>
        refine Or.inr ⟨id, (agrees.registered request id).mp registered, ?_⟩
        cases bound : broker.container.get? id with
        | none => exact Or.inl ((agrees.unbound id).mp bound)
        | some found => exact Or.inr ⟨found, (agrees.bound id found).mp bound⟩
  notFound := by
    rw [← agrees.unregistered]
    cases routed with
    | unregistered nothing => simp [nothing]
    | unbound id registered nothing => simp [registered]
    | unfit id found registered bound unfit => simp [registered]
    | invoked id handle registered bound once =>
        have apart := (once.ne (invokes id) request.warning).2
        simp only [registered, reduceCtorEq, iff_false]
        exact fun same => apart (congrArg Prod.snd same)
  unresolved id last := by
    have found := (agrees.registered request id).mpr last
    rw [← agrees.unbound]
    cases routed with
    | unregistered nothing => simp [nothing] at found
    | unbound other registered nothing =>
        obtain rfl := Option.some.inj (registered.symm.trans found)
        simp [nothing]
    | unfit other held registered bound unfit =>
        obtain rfl := Option.some.inj (registered.symm.trans found)
        simp [bound]
    | invoked other handle registered bound once =>
        obtain rfl := Option.some.inj (registered.symm.trans found)
        have apart := (once.ne (invokes other) request.warning).1
        simp only [bound, reduceCtorEq, iff_false]
        exact fun same => apart (congrArg Prod.snd same)
  invalid id found last lastBound := by
    have listed := (agrees.registered request id).mpr last
    have held := (agrees.bound id found).mpr lastBound
    cases routed with
    | unregistered nothing => simp [nothing] at listed
    | unbound other registered nothing =>
        obtain rfl := Option.some.inj (registered.symm.trans listed)
        simp [nothing] at held
    | unfit other there registered bound unfit =>
        obtain rfl := Option.some.inj (registered.symm.trans listed)
        obtain rfl := Option.some.inj (bound.symm.trans held)
        exact ⟨fun _ => unfit, fun _ => rfl⟩
    | invoked other handle registered bound once =>
        obtain rfl := Option.some.inj (registered.symm.trans listed)
        obtain rfl := Option.some.inj (bound.symm.trans held)
        have apart := (once.ne (invokes other) request.warning).1
        exact ⟨fun same => (apart (congrArg Prod.snd same)).elim,
          fun unfit => (unfit handle rfl).elim⟩
  invoked id handle last lastBound := by
    have listed := (agrees.registered request id).mpr last
    have held := (agrees.bound id (binding handle)).mpr lastBound
    cases routed with
    | unregistered nothing => simp [nothing] at listed
    | unbound other registered nothing =>
        obtain rfl := Option.some.inj (registered.symm.trans listed)
        simp [nothing] at held
    | unfit other found registered bound unfit =>
        obtain rfl := Option.some.inj (registered.symm.trans listed)
        exact absurd (Option.some.inj (bound.symm.trans held)) (unfit handle)
    | invoked other own registered bound once =>
        obtain rfl := Option.some.inj (registered.symm.trans listed)
        obtain rfl := injective (Option.some.inj (bound.symm.trans held))
        exact ⟨rfl, once⟩

end Routes

section Buses

variable (depth : Nat) (context : Context)

/-- What a handler makes of a command, and the note of how it ended. -/
def handling (kind : A.Command) (payload : A.Payload kind) (id : String)
    (handle : Context → A.Payload kind → Reaction A) : Act A (Except AppError Unit) :=
  ((handle context payload).run (Broker.flush depth)).bind (Broker.complete id kind payload)

def answering (kind : A.Query) (question : A.Question kind) (_ : String)
    (answer : Context → A.Question kind → Program A (Except AppError (A.Answer kind))) :
    Act A (Except AppError (A.Answer kind)) :=
  (answer context question).run (Broker.flush depth)

/-- The answer to a command is that of the handler's own program. -/
theorem handling_answer (kind : A.Command) (payload : A.Payload kind) (id : String)
    (handle : Context → A.Payload kind → Reaction A) (broker : Broker A) :
    (handling depth context kind payload id handle broker).1 =
      ((handle context payload).run (Broker.flush depth) broker).1 := by
  unfold handling
  rcases ran : (handle context payload).run (Broker.flush depth) broker with ⟨_ | outcome, after⟩
  · rw [Act.bind_of_none ran]
  · rw [Act.bind_of_some ran]
    rfl

theorem GivenOnce.of_grows {given : Activity A} {broker after : Broker A}
    (grows : Broker.Grows (fun activity => ¬ activity.Invokes) [] (broker.record given) after) :
    GivenOnce given broker after := by
  obtain ⟨added, quiet, adds⟩ := grows
  refine ⟨added, ?_, quiet⟩
  rw [adds.history]
  exact List.append_assoc _ [_] _

theorem uninvoked_frame :
    Frame (fun _ => True) (Broker.Grows (A := A) fun activity => ¬ activity.Invokes) :=
  Broker.grows_frame fun _ own => own.not_invokes

/-- While a handler runs, no handler is given a command or a question. -/
theorem run_uninvoked {α : Type} (program : Program A α) (broker : Broker A) :
    Broker.Grows (fun activity => ¬ activity.Invokes) [] broker
      (program.run (Broker.flush depth) broker).2 :=
  uninvoked_frame.run (fun bus broker => uninvoked_frame.flush depth bus broker)
    (Program.only_true program) broker broker.eventsOnly_true

theorem dispatch_routed (kind : A.Command) (payload : A.Payload kind) (broker : Broker A) :
    Routed (.command kind) (Binding.command kind) (fun id => .handled id kind payload)
      (handling depth context kind payload) broker
      (Broker.dispatch depth context kind payload broker) := by
  unfold Broker.dispatch
  cases registered : broker.commands.get? kind with
  | none => exact .unregistered registered
  | some id =>
      cases bound : broker.container.get? id with
      | none =>
          simp only [Broker.resolve, bound]
          exact .unbound id registered bound
      | some found =>
          simp only [Broker.resolve, bound]
          cases fits : found.asCommand? kind with
          | none =>
              refine .unfit id found registered bound fun handle same => ?_
              rw [same] at fits
              simp [Binding.asCommand?] at fits
          | some handle =>
              obtain rfl := Binding.asCommand?_eq_some fits
              refine .invoked id handle registered bound (.of_grows ?_)
              have ran := run_uninvoked depth (handle context payload)
                (broker.record (.handled id kind payload))
              refine uninvoked_frame.bind ran fun outcome => ?_
              exact Broker.record_grows _ (.completed id kind payload outcome) trivial trivial
                not_false

theorem ask_routed (kind : A.Query) (question : A.Question kind) (broker : Broker A) :
    Routed (.query kind) (Binding.query kind) (fun id => .asked id kind question)
      (answering depth context kind question) broker
      (Broker.ask depth context kind question broker) := by
  unfold Broker.ask
  cases registered : broker.queries.get? kind with
  | none => exact .unregistered registered
  | some id =>
      cases bound : broker.container.get? id with
      | none =>
          simp only [Broker.resolve, bound]
          exact .unbound id registered bound
      | some found =>
          simp only [Broker.resolve, bound]
          cases fits : found.asQuery? kind with
          | none =>
              refine .unfit id found registered bound fun answer same => ?_
              rw [same] at fits
              simp [Binding.asQuery?] at fits
          | some answer =>
              obtain rfl := Binding.asQuery?_eq_some fits
              exact .invoked id answer registered bound (.of_grows (run_uninvoked ..))

end Buses

/-- **The last registration and the last binding decide.**  After any changes of what is bound and
registered, with requests between them: a request has no handler exactly where nothing was ever
registered for its kind; else the id registered last cannot be resolved exactly where nothing was
bound under it since it was last unbound; else it is no valid handler exactly where what was bound
last is none of this very kind; and else that handler is given the request once, and what its own
program comes to is the answer.  A request registers nothing and binds nothing, and where no
handler unbinds anything, it leaves all bindings as they are.  What is registered for other kinds,
of the same name or on the other bus, does not matter. -/
theorem decided_by_latest (depth : Nat) (state : A.State) (operations : List (Operation A)) :
    let broker := Operation.runAll depth operations (Broker.start state)
    let changes := Operation.allChanges depth operations (Broker.start state)
    (∀ context kind payload,
      Decided (.command kind) (Binding.command kind) (fun id => .handled id kind payload)
        (handling depth context kind payload) changes broker
        (Broker.dispatch depth context kind payload broker)) ∧
    (∀ context kind question,
      Decided (.query kind) (Binding.query kind) (fun id => .asked id kind question)
        (answering depth context kind question) changes broker
        (Broker.ask depth context kind question broker)) ∧
    (∀ context kind payload,
      broker.Loosens (Broker.dispatch depth context kind payload broker).2) ∧
    (∀ context kind question,
      broker.Loosens (Broker.ask depth context kind question broker).2) ∧
    ((∀ id binding, .make (.bound id binding) ∈ operations → binding.Lasting) →
      changes = operations.filterMap Operation.change? ∧
      (∀ context kind payload,
        (Broker.dispatch depth context kind payload broker).2.container = broker.container) ∧
      ∀ context kind question,
        (Broker.ask depth context kind question broker).2.container = broker.container) ∧
    (∀ request other handler id, other ≠ request →
      (LastRegistered (changes ++ [.registered other handler]) request id ↔
        LastRegistered changes request id)) ∧
    (∀ context kind payload id handle, LastRegistered changes (.command kind) id →
      LastBound changes id (.command kind handle) →
        (Broker.dispatch depth context kind payload broker).1 =
          ((handle context payload).run (Broker.flush depth)
            (broker.record (.handled id kind payload))).1) ∧
    ∀ context kind question id answer, LastRegistered changes (.query kind) id →
      LastBound changes id (.query kind answer) →
        (Broker.ask depth context kind question broker).1 =
          ((answer context question).run (Broker.flush depth)
            (broker.record (.asked id kind question))).1 := by
  intro broker changes
  have agrees : Agrees changes broker :=
    Operation.runAll_agrees depth operations (start_agrees state)
  have commands : ∀ context kind payload,
      Decided (.command kind) (Binding.command kind) (fun id => .handled id kind payload)
        (handling depth context kind payload) changes broker
        (Broker.dispatch depth context kind payload broker) := by
    intro context kind payload
    exact (dispatch_routed depth context kind payload broker).decided agrees (fun _ => trivial)
      fun one two same => by cases same; rfl
  have queries : ∀ context kind question,
      Decided (.query kind) (Binding.query kind) (fun id => .asked id kind question)
        (answering depth context kind question) changes broker
        (Broker.ask depth context kind question broker) := by
    intro context kind question
    exact (ask_routed depth context kind question broker).decided agrees (fun _ => trivial)
      fun one two same => by cases same; rfl
  refine ⟨commands, queries, fun context => broker.dispatch_loosens depth context,
    fun context => broker.ask_loosens depth context, ?_, ?_, ?_, ?_⟩
  · intro fresh
    have lasting := Operation.runAll_lasting depth operations (Broker.start_lasting state) fresh
    exact ⟨Operation.allChanges_of_lasting depth operations (Broker.start_lasting state) fresh,
      fun context => broker.dispatch_container depth context lasting,
      fun context => broker.ask_container depth context lasting⟩
  · intro request other handler id apart
    exact last_concat_apart rfl fun same => apart (Option.some.inj same)
  · intro context kind payload id handle registered bound
    rw [((commands context kind payload).invoked id handle registered bound).1, handling_answer]
  · intro context kind question id answer registered bound
    rw [((queries context kind question).invoked id answer registered bound).1]
    rfl

namespace Sample

/-- Two kinds of command with one name get the same id, under which something else is bound before
the handler of the one; a query gets an id under which nothing is left.  The handler of a third
kind fails where its order says so. -/
def rewiring : List (Operation notebook) :=
  [.make (.registered (.command .ping) "ping"),
    .make (.bound "ping" (.text "nobody")),
    .dispatch {} .ping (1 : Int64),
    .make (.registered (.command .pingTwin) "ping"),
    .make (.registered (.query .greet) "greeter"),
    .make (.bound "greeter" (queryBinding "greeter" none .greet)),
    .make (.bound "ping" (commandBinding "ping" none .ping)),
    .make (.unbound "greeter"),
    .make (.bound "recorder" (commandBinding "recorder" none .record)),
    .make (.registered (.command .record) "recorder")]

def rewiredNotebook : Broker notebook := Operation.runAll 1 rewiring (Broker.start .empty)

def pinged : Option (Except AppError Unit) × Broker notebook :=
  Broker.dispatch (A := notebook) 1 {} .ping (7 : Int64) rewiredNotebook

def failingRecord : RecordOrder := ⟨[], some (.validation "unreadable")⟩

/-- A command is carried out by the handler of its own kind, and its namesake is not.  Where the
handler fails, its error is the answer. -/
theorem decided_by_latest_rewired :
    pinged.1 = some (.ok ()) ∧
      (Broker.dispatch (A := notebook) 1 {} .pingTwin (7 : Int64) rewiredNotebook).1 =
        some (.error (.invalidHandler .command "Ping")) ∧
      (Broker.dispatch (A := notebook) 1 {} .pong (7 : Int64) rewiredNotebook).1 =
        some (.error (.handlerNotFound .command "Pong")) ∧
      (Broker.ask (A := notebook) 1 {} .greet "you" rewiredNotebook).1 =
        some (.error (.unresolved "greeter" "no instance bound")) ∧
      Decided (A := notebook) (.command .ping) (Binding.command (A := notebook) .ping)
        (fun id => .handled id .ping (7 : Int64)) (handling (A := notebook) 1 {} .ping (7 : Int64))
        (Operation.allChanges 1 rewiring (Broker.start .empty)) rewiredNotebook pinged ∧
      (Broker.dispatch (A := notebook) 1 {} .record failingRecord rewiredNotebook).1 =
        some (.error (.validation "unreadable")) := by
  obtain ⟨commands, -, -, -, -, -, answers, -⟩ :=
    decided_by_latest (A := notebook) 1 .empty rewiring
  let changes := Operation.allChanges 1 rewiring (Broker.start .empty)
  have registered : LastRegistered changes (.command .record) "recorder" :=
    ⟨changes.take 8, [], rfl, nofun⟩
  have bound : LastBound changes "recorder" (.command .record handleRecord) :=
    ⟨changes.take 7, [.registered (.command .record) "recorder"], rfl, by simp [Change.id?]⟩
  refine ⟨rfl, rfl, rfl, rfl, commands {} NotebookCommand.ping (7 : Int64), ?_⟩
  exact (answers {} NotebookCommand.record failingRecord "recorder" handleRecord registered
    bound).trans rfl

end Sample

end Cqrs
