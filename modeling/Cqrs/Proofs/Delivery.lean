/-
# Proofs.Delivery -- flushes where every handler succeeds

Where every subscriber succeeds and keeps to effects that are answered, a flush has an answer,
and it is a success: every event of the batch is given to every subscriber of its type, in order
and once for each subscription (`Steady.deliverAll`).  What else becomes of the broker depends on
the effects; `Steady` collects what has to be shown of them.

A quiet handler leaves lines and looks at what is there, and touches neither buses nor
bindings; what it changes of the state, a given view of the state does not show.  Where every
subscriber is quiet and succeeds, nothing changes but the history (`Broker.deliverAll_quietly`).

A handler that is subscribed once to the types of a batch is therefore given the batch
(`deliveriesTo_batch`).
-/
import Cqrs.Proofs.Growth

namespace Cqrs

set_option autoImplicit false

variable {A : Application}

/-! ## Handlers that are answered and succeed -/

/-- The program comes to a success, whatever it is answered. -/
def Program.Succeeds : Program A (Except AppError Unit) → Prop
  | .done result => result = .ok ()
  | .perform _ next => ∀ response, (next response).Succeeds

theorem Program.Succeeds.result_eq {program : Program A (Except AppError Unit)}
    (succeeds : program.Succeeds) {flush : BusId → Act A (Except AppError Unit)}
    {before after : Broker A} {result : Except AppError Unit}
    (ran : program.run flush before = (some result, after)) : result = .ok () := by
  induction program generalizing before with
  | done own =>
      cases ran
      exact succeeds
  | perform effect next ih =>
      rcases carried : effect.carryOut flush before with ⟨_ | response, middle⟩
      · cases (Act.bind_of_none carried).symm.trans ran
      · exact ih response (succeeds response) ((Act.bind_of_some carried).symm.trans ran)

namespace Broker

/-- What is bound under an id is a handler that takes the event with allowed effects and
succeeds. -/
def Takes (allowed : Effect A → Prop) (broker : Broker A) (event : A.Event)
    (handler : String) : Prop :=
  ∃ handle, broker.container.get? handler = some (.event handle) ∧
    (handle event).Only allowed ∧ (handle event).Succeeds

/-- The deliveries of a batch, by the subscriptions of a broker. -/
def addressed (broker : Broker A) (batch : List A.Event) : List (String × A.Event) :=
  batch.flatMap fun event =>
    (broker.subscribers (A.eventType event)).map fun handler => (handler, event)

theorem addressed_append (broker : Broker A) (first second : List A.Event) :
    broker.addressed (first ++ second) = broker.addressed first ++ broker.addressed second :=
  List.flatMap_append

end Broker

/-- A relation between the broker before and the broker after, by the deliveries between them,
that allowed effects keep.  Each of these effects is answered, and neither bindings nor
subscriptions change. -/
structure Steady (allowed : Effect A → Prop)
    (R : List (String × A.Event) → Broker A → Broker A → Prop) : Prop where
  refl : ∀ broker, R [] broker broker
  trans : ∀ {first second a b c}, R first a b → R second b c → R (first ++ second) a c
  container : ∀ {delivered a b}, R delivered a b → b.container = a.container
  subscriptions : ∀ {delivered a b}, R delivered a b → b.subscriptions = a.subscriptions
  effect : ∀ effect flush broker, allowed effect →
    ∃ response after, effect.carryOut flush broker = (some response, after) ∧ R [] broker after
  notified : ∀ handler event broker,
    R [(handler, event)] broker (broker.record (.notified handler event))

namespace Steady

variable {allowed : Effect A → Prop}
  {R : List (String × A.Event) → Broker A → Broker A → Prop}

/-- A program of allowed effects is answered. -/
theorem run {α : Type} (steady : Steady allowed R) {program : Program A α}
    (only : program.Only allowed) (flush : BusId → Act A (Except AppError Unit))
    (broker : Broker A) :
    ∃ result after, program.run flush broker = (some result, after) ∧ R [] broker after := by
  induction program generalizing broker with
  | done result => exact ⟨result, broker, rfl, steady.refl broker⟩
  | perform effect next ih =>
      obtain ⟨response, middle, carried, first⟩ := steady.effect effect flush broker only.1
      obtain ⟨result, after, ran, second⟩ := ih response (only.2 response) middle
      exact ⟨result, after, (Act.bind_of_some carried).trans ran, steady.trans first second⟩

theorem takes (steady : Steady allowed R) {delivered : List (String × A.Event)}
    {before after : Broker A} (reached : R delivered before after) {event : A.Event}
    {handler : String} (takes : before.Takes allowed event handler) :
    after.Takes allowed event handler := by
  obtain ⟨handle, bound, reacts⟩ := takes
  exact ⟨handle, by rw [steady.container reached, bound], reacts⟩

theorem subscribers (steady : Steady allowed R) {delivered : List (String × A.Event)}
    {before after : Broker A} (reached : R delivered before after) (eventType : String) :
    after.subscribers eventType = before.subscribers eventType := by
  simp only [Broker.subscribers, steady.subscriptions reached]

variable (flush : BusId → Act A (Except AppError Unit))

theorem notify (steady : Steady allowed R) {event : A.Event} {handler : String}
    {broker : Broker A} (takes : broker.Takes allowed event handler) :
    ∃ after, Broker.notify flush event handler broker = (some (.ok ()), after) ∧
      R [(handler, event)] broker after := by
  obtain ⟨handle, bound, only, succeeds⟩ := takes
  obtain ⟨result, after, ran, rest⟩ :=
    steady.run only flush (broker.record (.notified handler event))
  obtain rfl := succeeds.result_eq ran
  refine ⟨after, ?_, steady.trans (steady.notified handler event broker) rest⟩
  simp only [Broker.notify, Broker.resolve, bound, Binding.asEvent?]
  exact ran

theorem deliver (steady : Steady allowed R) {event : A.Event} (handlers : List String)
    {broker : Broker A} (take : ∀ handler ∈ handlers, broker.Takes allowed event handler) :
    ∃ after, Broker.deliver flush event handlers broker = (some (.ok ()), after) ∧
      R (handlers.map fun handler => (handler, event)) broker after := by
  induction handlers generalizing broker with
  | nil => exact ⟨broker, rfl, steady.refl broker⟩
  | cons handler rest ih =>
      obtain ⟨middle, notified, first⟩ :=
        steady.notify flush (take handler (List.mem_cons_self ..))
      obtain ⟨after, delivered, second⟩ := ih fun other member =>
        steady.takes first (take other (List.mem_cons_of_mem _ member))
      exact ⟨after, (Act.bind_of_some notified).trans delivered, steady.trans first second⟩

/-- Where every subscriber has allowed effects and succeeds, all of a batch is delivered. -/
theorem deliverAll (steady : Steady allowed R) (batch : List A.Event) {broker : Broker A}
    (take : ∀ event ∈ batch, ∀ handler ∈ broker.subscribers (A.eventType event),
      broker.Takes allowed event handler) :
    ∃ after, Broker.deliverAll flush batch broker = (some (.ok ()), after) ∧
      R (broker.addressed batch) broker after := by
  induction batch generalizing broker with
  | nil => exact ⟨broker, rfl, steady.refl broker⟩
  | cons event rest ih =>
      obtain ⟨middle, delivered, first⟩ := steady.deliver flush
        (broker.subscribers (A.eventType event)) (take event (List.mem_cons_self ..))
      -- the subscribers of the next event are read anew, from a broker where they are the same
      have later : ∀ other ∈ rest, ∀ handler ∈ middle.subscribers (A.eventType other),
          middle.Takes allowed other handler := by
        intro other member handler subscribed
        rw [steady.subscribers first] at subscribed
        exact steady.takes first (take other (List.mem_cons_of_mem _ member) handler subscribed)
      obtain ⟨after, others, second⟩ := ih later
      have same : middle.addressed rest = broker.addressed rest := by
        simp only [Broker.addressed, steady.subscribers first]
      rw [same] at second
      exact ⟨after, (Act.bind_of_some delivered).trans others, steady.trans first second⟩

end Steady

/-! ## Quiet handlers -/

variable {σ : Type} {view : A.State → σ}

/-- Effects that a view of the state, the buses and the bindings do not show. -/
def Effect.Quiet (view : A.State → σ) : Effect A → Prop
  | .note _ | .log _ | .inspect | .pending _ => True
  | .update change => ∀ state, view (change state) = view state
  | .publish _ _ | .subscribe _ _ | .unbind _ | .discard _ | .flush _ => False

/-- The activities of quiet handlers, and of events given to them. -/
def Activity.Quiet : Activity A → Prop
  | .noted _ | .logged _ | .notified _ _ => True
  | _ => False

/-- Nothing but the history and what the view does not show has changed. -/
structure Calm (view : A.State → σ) (before after : Broker A) : Prop where
  container : after.container = before.container
  commands : after.commands = before.commands
  subscriptions : after.subscriptions = before.subscriptions
  buffers : after.buffers = before.buffers
  opened : after.opened = before.opened
  view : view after.state = view before.state

theorem Calm.refl (broker : Broker A) : Calm view broker broker := ⟨rfl, rfl, rfl, rfl, rfl, rfl⟩

theorem Calm.trans {a b c : Broker A} (one : Calm view a b) (two : Calm view b c) :
    Calm view a c where
  container := two.container.trans one.container
  commands := two.commands.trans one.commands
  subscriptions := two.subscriptions.trans one.subscriptions
  buffers := two.buffers.trans one.buffers
  opened := two.opened.trans one.opened
  view := two.view.trans one.view

theorem Calm.record (broker : Broker A) (activity : Activity A) :
    Calm view broker (broker.record activity) := ⟨rfl, rfl, rfl, rfl, rfl, rfl⟩

theorem Calm.buffer {before after : Broker A} (calm : Calm view before after) (bus : BusId) :
    after.buffer bus = before.buffer bus := by
  simp only [Broker.buffer, calm.buffers]

/-- A calm run that added some quiet activities to the history, with these deliveries. -/
structure Quietly (view : A.State → σ) (delivered : List (String × A.Event))
    (before after : Broker A) : Prop where
  calm : Calm view before after
  history : ∃ added, after.history = before.history ++ added ∧
    (∀ activity ∈ added, activity.Quiet) ∧ Activity.deliveries added = delivered

theorem Quietly.refl (broker : Broker A) : Quietly view [] broker broker :=
  ⟨.refl broker, [], (List.append_nil _).symm,
    fun _ member => (List.not_mem_nil member).elim, rfl⟩

theorem Quietly.trans {first second : List (String × A.Event)} {a b c : Broker A}
    (one : Quietly view first a b) (two : Quietly view second b c) :
    Quietly view (first ++ second) a c := by
  obtain ⟨added, before, quiet, delivered⟩ := one.history
  obtain ⟨more, after, still, others⟩ := two.history
  refine ⟨one.calm.trans two.calm, added ++ more, ?_, ?_, ?_⟩
  · rw [after, before, List.append_assoc]
  · intro activity member
    rcases List.mem_append.mp member with here | there
    · exact quiet activity here
    · exact still activity there
  · rw [Activity.deliveries_append, delivered, others]

theorem Quietly.record (broker : Broker A) (activity : Activity A) (quiet : activity.Quiet) :
    Quietly view (Activity.deliveries [activity]) broker (broker.record activity) := by
  refine ⟨.record broker activity, [activity], rfl, fun other member => ?_, rfl⟩
  rw [List.mem_singleton.mp member]
  exact quiet

theorem effect_quietly {effect : Effect A} (quiet : effect.Quiet view)
    (flush : BusId → Act A (Except AppError Unit)) (broker : Broker A) :
    ∃ response after, effect.carryOut flush broker = (some response, after) ∧
      Quietly view [] broker after := by
  cases effect with
  | note line => exact ⟨(), _, rfl, .record broker (.noted line) trivial⟩
  | log record => exact ⟨(), _, rfl, .record broker (.logged record) trivial⟩
  | inspect => exact ⟨broker.state, broker, rfl, .refl broker⟩
  | pending bus => exact ⟨broker.pending bus, broker, rfl, .refl broker⟩
  | update change =>
      refine ⟨(), _, rfl, ⟨rfl, rfl, rfl, rfl, rfl, quiet broker.state⟩, [], ?_, ?_, rfl⟩
      · exact (List.append_nil _).symm
      · exact fun _ member => (List.not_mem_nil member).elim
  | publish | subscribe | unbind | discard | flush => exact quiet.elim

theorem quietly_steady : Steady (Effect.Quiet view) (Quietly (A := A) view) where
  refl := .refl
  trans := .trans
  container quietly := quietly.calm.container
  subscriptions quietly := quietly.calm.subscriptions
  effect _ flush broker quiet := effect_quietly quiet flush broker
  notified handler event broker := .record broker (.notified handler event) trivial

/-- What is bound under an id is a handler that takes the event quietly and succeeds. -/
def Broker.Receives (view : A.State → σ) (broker : Broker A) (event : A.Event)
    (handler : String) : Prop :=
  ∃ handle, broker.container.get? handler = some (.event handle) ∧
    (handle event).Only (Effect.Quiet view) ∧ (handle event).Succeeds

/-- Where every subscriber is quiet and succeeds, all of a batch is delivered. -/
theorem Broker.deliverAll_quietly (flush : BusId → Act A (Except AppError Unit))
    (batch : List A.Event) {broker : Broker A}
    (receive : ∀ event ∈ batch, ∀ handler ∈ broker.subscribers (A.eventType event),
      broker.Receives view event handler) :
    ∃ after, deliverAll flush batch broker = (some (.ok ()), after) ∧
      Quietly view (broker.addressed batch) broker after :=
  quietly_steady.deliverAll flush batch receive

/-! ## One of the handlers -/

/-- The events of some deliveries that one handler was given. -/
def deliveriesTo (observer : String) (deliveries : List (String × A.Event)) : List A.Event :=
  (deliveries.filter fun delivery => delivery.1 = observer).map Prod.snd

theorem deliveriesTo_append (observer : String) (first second : List (String × A.Event)) :
    deliveriesTo observer (first ++ second) =
      deliveriesTo observer first ++ deliveriesTo observer second := by
  simp only [deliveriesTo, List.filter_append, List.map_append]

/-- A handler is given an event once for each time it is among the subscribers. -/
theorem deliveriesTo_handlers (observer : String) (event : A.Event) (handlers : List String) :
    deliveriesTo observer (handlers.map fun handler => (handler, event)) =
      List.replicate (handlers.count observer) event := by
  induction handlers with
  | nil => rfl
  | cons handler rest ih =>
      unfold deliveriesTo at ih ⊢
      by_cases same : handler = observer
      · simp [same, ih, List.replicate_succ]
      · simp [same, ih]

/-- A handler that is subscribed once to each type of a batch is given the batch. -/
theorem deliveriesTo_batch (observer : String) (broker : Broker A) (batch : List A.Event)
    (once : ∀ event ∈ batch, (broker.subscribers (A.eventType event)).count observer = 1) :
    deliveriesTo observer (broker.addressed batch) = batch := by
  induction batch with
  | nil => rfl
  | cons event rest ih =>
      have later := ih fun other member => once other (List.mem_cons_of_mem _ member)
      have first := once event (List.mem_cons_self ..)
      simp only [Broker.addressed, List.flatMap_cons] at later ⊢
      rw [deliveriesTo_append, deliveriesTo_handlers, first, later]
      rfl

end Cqrs
