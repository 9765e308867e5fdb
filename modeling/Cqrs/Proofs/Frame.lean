/-
# Proofs.Frame -- relations between brokers that running handlers keep

Handlers reach a broker through effects alone, and a flush reaches it through handlers
alone.  A relation between the broker before and the broker after is therefore kept by a
whole flush as soon as single steps keep it.  `Frame` collects what has to be shown of
single steps; the rest follows, from the inside out:

* `Frame.run` -- a program of allowed effects;
* `Frame.flush` -- a flush, to any depth, where the handlers of events have allowed effects;
* `Frame.containerDispatch`, `Frame.directDispatch`, `Frame.commandDispatch` -- the dispatch
  of a command through the container and through every stack of layers around it;
* `Frame.ask` -- the answer to a query.

A relation may depend on the batch at hand, the events that are being delivered while the
step is taken.
-/
import Cqrs.CommandBus
import Cqrs.QueryBus

namespace Cqrs

set_option autoImplicit false

variable {A : Application} {α β : Type}

/-! ## Runs one after another -/

namespace Act

theorem bind_of_some {act : Act A α} {next : α → Act A β} {broker middle : Broker A}
    {result : α} (answered : act broker = (some result, middle)) :
    act.bind next broker = next result middle := by
  simp only [bind, answered]

theorem bind_of_none {act : Act A α} {next : α → Act A β} {broker middle : Broker A}
    (stuck : act broker = (none, middle)) : act.bind next broker = (none, middle) := by
  simp only [bind, stuck]

/-- Runs one after another, up to the first without an answer. -/
def each : List (Act A α) → Act A (List α)
  | [] => .answer []
  | act :: rest => act.bind fun result => (each rest).bind fun results =>
      .answer (result :: results)

theorem each_of_none {act : Act A α} {rest : List (Act A α)} {broker middle : Broker A}
    (stuck : act broker = (none, middle)) : each (act :: rest) broker = (none, middle) :=
  bind_of_none stuck

theorem each_of_some {act : Act A α} {rest : List (Act A α)} {broker middle : Broker A}
    {result : α} (answered : act broker = (some result, middle)) :
    each (act :: rest) broker =
      ((each rest middle).1.map (result :: ·), (each rest middle).2) := by
  refine (bind_of_some answered).trans ?_
  rcases ended : each rest middle with ⟨_ | results, after⟩
  · exact bind_of_none ended
  · exact bind_of_some ended

end Act

theorem Program.only_true (program : Program A α) : program.Only fun _ => True := by
  induction program with
  | done result => trivial
  | perform effect next ih => exact ⟨trivial, ih⟩

/-! ## What is bound -/

namespace Broker

/-- All that is bound in the broker is bound alike in the other one. -/
def BindsWithin (broker other : Broker A) : Prop :=
  ∀ id binding, broker.container.get? id = some binding → other.container.get? id = some binding

/-- The handlers of events that are bound have none but allowed effects. -/
def EventsOnly (allowed : Effect A → Prop) (broker : Broker A) : Prop :=
  ∀ id handle, broker.container.get? id = some (.event handle) →
    ∀ event, (handle event).Only allowed

/-- The handlers of commands that are bound have none but allowed effects. -/
def CommandsOnly (allowed : Effect A → Prop) (broker : Broker A) : Prop :=
  ∀ id kind handle, broker.container.get? id = some (.command kind handle) →
    ∀ context payload, (handle context payload).Only allowed

/-- The handlers of queries that are bound have none but allowed effects. -/
def QueriesOnly (allowed : Effect A → Prop) (broker : Broker A) : Prop :=
  ∀ id kind answer, broker.container.get? id = some (.query kind answer) →
    ∀ context question, (answer context question).Only allowed

theorem eventsOnly_true (broker : Broker A) : broker.EventsOnly fun _ => True :=
  fun _ _ _ _ => Program.only_true _

theorem commandsOnly_true (broker : Broker A) : broker.CommandsOnly fun _ => True :=
  fun _ _ _ _ _ _ => Program.only_true _

theorem queriesOnly_true (broker : Broker A) : broker.QueriesOnly fun _ => True :=
  fun _ _ _ _ _ _ => Program.only_true _

theorem BindsWithin.refl (broker : Broker A) : broker.BindsWithin broker :=
  fun _ _ bound => bound

theorem BindsWithin.trans {a b c : Broker A} (first : b.BindsWithin a) (second : c.BindsWithin b) :
    c.BindsWithin a :=
  fun id binding bound => first id binding (second id binding bound)

theorem unbind_bindsWithin (broker : Broker A) (id : String) :
    (broker.unbind id).BindsWithin broker := by
  intro other binding bound
  simp only [unbind, Table.get?_erase] at bound
  split at bound
  · cases bound
  · exact bound

theorem EventsOnly.of_bindsWithin {allowed : Effect A → Prop} {a b : Broker A}
    (only : a.EventsOnly allowed) (within : b.BindsWithin a) : b.EventsOnly allowed :=
  fun id handle bound => only id handle (within id _ bound)

theorem resolve_ok {broker : Broker A} {id : String} {binding : Binding A}
    (found : broker.resolve id = .ok binding) : broker.container.get? id = some binding := by
  unfold resolve at found
  split at found
  · rename_i bound
    cases found
    exact bound
  · cases found

end Broker

namespace Binding

theorem asEvent?_eq_some {binding : Binding A} {handle : A.Event → Reaction A}
    (found : binding.asEvent? = some handle) : binding = .event handle := by
  cases binding <;> simp_all [asEvent?]

theorem asCommand?_eq_some {kind : A.Command} {binding : Binding A}
    {handle : Context → A.Payload kind → Reaction A}
    (found : binding.asCommand? kind = some handle) : binding = .command kind handle := by
  cases binding with
  | command bound other =>
      simp only [asCommand?] at found
      split at found
      · rename_i same
        subst same
        cases found
        rfl
      · cases found
  | query | event | text | number | object => cases found

theorem asQuery?_eq_some {kind : A.Query} {binding : Binding A}
    {answer : Context → A.Question kind → Program A (Except AppError (A.Answer kind))}
    (found : binding.asQuery? kind = some answer) : binding = .query kind answer := by
  cases binding with
  | query bound other =>
      simp only [asQuery?] at found
      split at found
      · rename_i same
        subst same
        cases found
        rfl
      · cases found
  | command | event | text | number | object => cases found

end Binding

/-! ## Frames -/

/-- A relation that every step of running handlers keeps.  Deliveries are of events of the
batch at hand, and a flush makes what it takes the batch at hand. -/
structure Frame (allowed : Effect A → Prop) (R : List A.Event → Broker A → Broker A → Prop) :
    Prop where
  refl : ∀ batch broker, R batch broker broker
  trans : ∀ {batch a b c}, R batch a b → R batch b c → R batch a c
  binds : ∀ {batch a b}, R batch a b → b.BindsWithin a
  effect : ∀ {batch} effect flush broker, allowed effect → (∀ bus, effect ≠ .flush bus) →
    R batch broker (effect.carryOut flush broker).2
  notified : ∀ {batch} handler event broker, event ∈ batch →
    R batch broker (broker.record (.notified handler event))
  flushed : ∀ {batch} bus broker after, R (broker.buffer bus) (broker.take bus).2 after →
    R batch broker after

namespace Frame

variable {allowed : Effect A → Prop} {R : List A.Event → Broker A → Broker A → Prop}

theorem bind (frame : Frame allowed R) {batch : List A.Event} {act : Act A α}
    {next : α → Act A β} {broker : Broker A} (first : R batch broker (act broker).2)
    (second : ∀ result, R batch (act broker).2 (next result (act broker).2).2) :
    R batch broker (act.bind next broker).2 := by
  rcases answered : act broker with ⟨_ | result, middle⟩
  · rw [answered] at first
    rw [Act.bind_of_none answered]
    exact first
  · rw [answered] at first second
    rw [Act.bind_of_some answered]
    exact frame.trans first (second result)

theorem taken (frame : Frame allowed R) {batch : List A.Event} (bus : BusId)
    (broker : Broker A) : R batch broker (broker.take bus).2 :=
  frame.flushed bus broker _ (frame.refl _ _)

/-- A program of allowed effects keeps the relation, if flushes do. -/
theorem run (frame : Frame allowed R) {batch : List A.Event}
    {flush : BusId → Act A (Except AppError Unit)}
    (flushes : ∀ bus broker, broker.EventsOnly allowed → R batch broker (flush bus broker).2)
    {program : Program A α} (only : program.Only allowed) (broker : Broker A)
    (events : broker.EventsOnly allowed) : R batch broker (program.run flush broker).2 := by
  induction program generalizing broker with
  | done result => exact frame.refl _ _
  | perform effect next ih =>
      have step : R batch broker (effect.carryOut flush broker).2 := by
        by_cases flushing : ∃ bus, effect = .flush bus
        · obtain ⟨bus, rfl⟩ := flushing
          exact flushes bus broker events
        · exact frame.effect effect flush broker only.1 fun bus same => flushing ⟨bus, same⟩
      exact frame.bind step fun response =>
        ih response (only.2 response) _ (events.of_bindsWithin (frame.binds step))

theorem notify (frame : Frame allowed R) {batch : List A.Event}
    {flush : BusId → Act A (Except AppError Unit)}
    (flushes : ∀ bus broker, broker.EventsOnly allowed → R batch broker (flush bus broker).2)
    {event : A.Event} (member : event ∈ batch) (handler : String) (broker : Broker A)
    (events : broker.EventsOnly allowed) :
    R batch broker (Broker.notify flush event handler broker).2 := by
  unfold Broker.notify
  split
  · exact frame.refl _ _
  · rename_i binding resolved
    split
    · rename_i handle isEvent
      have bound := Broker.resolve_ok resolved
      rw [Binding.asEvent?_eq_some isEvent] at bound
      have noted : R batch broker (broker.record (.notified handler event)) :=
        frame.notified handler event broker member
      exact frame.trans noted (frame.run flushes (events handler handle bound event) _
        (events.of_bindsWithin (frame.binds noted)))
    · exact frame.refl _ _

theorem deliver (frame : Frame allowed R) {batch : List A.Event}
    {flush : BusId → Act A (Except AppError Unit)}
    (flushes : ∀ bus broker, broker.EventsOnly allowed → R batch broker (flush bus broker).2)
    {event : A.Event} (member : event ∈ batch) (handlers : List String) (broker : Broker A)
    (events : broker.EventsOnly allowed) :
    R batch broker (Broker.deliver flush event handlers broker).2 := by
  induction handlers generalizing broker with
  | nil => exact frame.refl _ _
  | cons handler rest ih =>
      have step := frame.notify flushes member handler broker events
      refine frame.bind step fun result => ?_
      cases result with
      | ok => exact ih _ (events.of_bindsWithin (frame.binds step))
      | error => exact frame.refl _ _

theorem deliverAll (frame : Frame allowed R) {batch : List A.Event}
    {flush : BusId → Act A (Except AppError Unit)}
    (flushes : ∀ bus broker, broker.EventsOnly allowed → R batch broker (flush bus broker).2)
    (rest : List A.Event) (within : rest ⊆ batch) (broker : Broker A)
    (events : broker.EventsOnly allowed) :
    R batch broker (Broker.deliverAll flush rest broker).2 := by
  induction rest generalizing broker with
  | nil => exact frame.refl _ _
  | cons event rest ih =>
      have member : event ∈ batch := within (List.mem_cons_self ..)
      have step := frame.deliver flushes member (broker.subscribers (A.eventType event)) broker
        events
      refine frame.bind step fun result => ?_
      cases result with
      | ok =>
          exact ih (fun other inRest => within (List.mem_cons_of_mem _ inRest)) _
            (events.of_bindsWithin (frame.binds step))
      | error => exact frame.refl _ _

/-- A flush keeps the relation, however deep flushes run within it. -/
theorem flush (frame : Frame allowed R) (depth : Nat) {batch : List A.Event} (bus : BusId)
    (broker : Broker A) (events : broker.EventsOnly allowed) :
    R batch broker (Broker.flush depth bus broker).2 := by
  induction depth generalizing batch bus broker with
  | zero => exact frame.refl _ _
  | succ depth ih =>
      have start : R batch broker (broker.take bus).2 := frame.taken bus broker
      exact frame.flushed bus broker _ (frame.deliverAll (fun bus broker => ih bus broker) _
        (List.Subset.refl _) _ (events.of_bindsWithin (frame.binds start)))

/-! ## Layers -/

variable {depth : Nat} {context : Context} {kind : A.Command} {payload : A.Payload kind}

/-- The relation is kept by the dispatch through the container, if the handlers of commands
have allowed effects too. -/
theorem containerDispatch (frame : Frame allowed R)
    (logged : ∀ record broker, R [] broker (broker.record (.logged record)))
    (handled : ∀ handler (kind : A.Command) payload broker,
      R [] broker (broker.record (.handled handler kind payload)))
    (completed : ∀ handler (kind : A.Command) payload outcome broker,
      R [] broker (broker.record (.completed handler kind payload outcome)))
    (broker : Broker A) (events : broker.EventsOnly allowed)
    (commands : broker.CommandsOnly allowed) :
    R [] broker (Broker.dispatch depth context kind payload broker).2 := by
  unfold Broker.dispatch
  split
  · exact logged _ _
  · rename_i handler registered
    split
    · exact frame.refl _ _
    · rename_i binding resolved
      split
      · rename_i handle isCommand
        have bound := Broker.resolve_ok resolved
        rw [Binding.asCommand?_eq_some isCommand] at bound
        have start := handled handler kind payload broker
        have flushes : ∀ bus broker, broker.EventsOnly allowed →
            R [] broker (Broker.flush depth bus broker).2 :=
          fun bus broker => frame.flush depth bus broker
        have ran := frame.run flushes (commands handler kind handle bound context payload) _
          (events.of_bindsWithin (frame.binds start))
        exact frame.trans start (frame.bind ran fun outcome => completed _ _ _ _ _)
      · exact frame.refl _ _

/-- The relation is kept by the answer to a query, if the handlers of queries have allowed
effects. -/
theorem ask (frame : Frame allowed R) {kind : A.Query} {question : A.Question kind}
    (logged : ∀ record broker, R [] broker (broker.record (.logged record)))
    (asked : ∀ handler (kind : A.Query) question broker,
      R [] broker (broker.record (.asked handler kind question)))
    (broker : Broker A) (events : broker.EventsOnly allowed)
    (queries : broker.QueriesOnly allowed) :
    R [] broker (Broker.ask depth context kind question broker).2 := by
  unfold Broker.ask
  split
  · exact logged _ _
  · rename_i handler registered
    split
    · exact frame.refl _ _
    · rename_i binding resolved
      split
      · rename_i answer isQuery
        have bound := Broker.resolve_ok resolved
        rw [Binding.asQuery?_eq_some isQuery] at bound
        have start := asked handler kind question broker
        have flushes : ∀ bus broker, broker.EventsOnly allowed →
            R [] broker (Broker.flush depth bus broker).2 :=
          fun bus broker => frame.flush depth bus broker
        exact frame.trans start (frame.run flushes (queries handler kind answer bound context
          question) _ (events.of_bindsWithin (frame.binds start)))
      · exact frame.refl _ _

theorem flushAround (frame : Frame allowed R) {inner : Act A (Except AppError Unit)}
    (policy : FlushPolicy) (broker : Broker A) (events : broker.EventsOnly allowed)
    (kept : R [] broker (inner broker).2) :
    R [] broker (DirectBus.flushAround depth policy context inner broker).2 := by
  cases present : context.eventBus with
  | error =>
      simp only [DirectBus.flushAround, present]
      exact frame.refl _ _
  | ok bus =>
      simp only [DirectBus.flushAround, present]
      refine frame.bind kept fun result => ?_
      cases result with
      | ok => exact frame.flush depth bus _ (events.of_bindsWithin (frame.binds kept))
      | error =>
          cases policy with
          | discardOnFailure => exact frame.taken bus _
          | retainOnFailure => exact frame.refl _ _

/-- The relation is kept by every bus without transactions, if the container keeps it. -/
theorem directDispatch (frame : Frame allowed R)
    (container : ∀ broker, broker.EventsOnly allowed →
      R [] broker (Broker.dispatch depth context kind payload broker).2)
    (bus : DirectBus) (broker : Broker A) (events : broker.EventsOnly allowed) :
    R [] broker (bus.dispatch depth context kind payload broker).2 := by
  induction bus with
  | container => exact container broker events
  | flushing policy inner ih => exact frame.flushAround policy broker events ih

section Sessions

variable (logged : ∀ record broker, R [] broker (broker.record (.logged record)))
  (session : ∀ unit call succeeded broker,
    R [] broker (broker.record (.session unit call succeeded)))

include session in
theorem unitCall (unit : UnitOfWork) (call : SessionCall) (broker : Broker A) :
    R [] broker (unit.call call broker).2 := by
  unfold UnitOfWork.call
  split
  · exact session _ _ _ _
  · exact session _ _ _ _

include logged session

theorem giveUp (frame : Frame allowed R) (unit : UnitOfWork) (command : String)
    (error : AppError) (broker : Broker A) :
    R [] broker (CommandBus.giveUp unit command error broker).2 := by
  refine frame.bind (logged _ _) fun _ => frame.bind (unitCall session unit _ _) fun result => ?_
  cases result with
  | ok => exact frame.refl _ _
  | error => exact frame.bind (logged _ _) fun _ => frame.refl _ _

theorem conclude (frame : Frame allowed R) (unit : UnitOfWork) (command : String)
    (outcome : Except AppError Unit) (broker : Broker A) :
    R [] broker (CommandBus.conclude unit command outcome broker).2 := by
  cases outcome with
  | error => exact giveUp logged session frame unit command _ _
  | ok =>
      refine frame.bind (unitCall session unit _ _) fun committed => ?_
      cases committed with
      | ok => exact frame.refl _ _
      | error => exact giveUp logged session frame unit command _ _

theorem sessionAround (frame : Frame allowed R) (unit : UnitOfWork) (command : String)
    {inner : Act A (Except AppError Unit)}
    (kept : ∀ broker, broker.EventsOnly allowed → R [] broker (inner broker).2)
    (broker : Broker A) (events : broker.EventsOnly allowed) :
    R [] broker (CommandBus.sessionAround unit command inner broker).2 := by
  have opened := unitCall session unit .createSession broker
  refine frame.bind opened fun result => ?_
  cases result with
  | error => exact frame.refl _ _
  | ok =>
      exact frame.bind (kept _ (events.of_bindsWithin (frame.binds opened))) fun outcome =>
        conclude logged session frame unit command outcome _

/-- The relation is kept by every command bus, if the container keeps it. -/
theorem commandDispatch (frame : Frame allowed R)
    (container : ∀ broker, broker.EventsOnly allowed →
      R [] broker (Broker.dispatch depth context kind payload broker).2)
    (bus : CommandBus) (broker : Broker A) (events : broker.EventsOnly allowed) :
    R [] broker (bus.dispatch depth context kind payload broker).2 := by
  induction bus generalizing broker with
  | direct bus => exact frame.directDispatch container bus broker events
  | transactional unit inner ih =>
      exact sessionAround logged session frame unit _ ih broker events

end Sessions

/-- Runs one after another keep the relation, if each of them does. -/
theorem each (frame : Frame allowed R) {acts : List (Act A α)}
    (kept : ∀ act ∈ acts, ∀ broker, broker.EventsOnly allowed → R [] broker (act broker).2)
    (broker : Broker A) (events : broker.EventsOnly allowed) :
    R [] broker (Act.each acts broker).2 := by
  induction acts generalizing broker with
  | nil => exact frame.refl _ _
  | cons act rest ih =>
      have first := kept act (List.mem_cons_self ..) broker events
      refine frame.bind first fun result => ?_
      have later := ih (fun other member => kept other (List.mem_cons_of_mem _ member)) _
        (events.of_bindsWithin (frame.binds first))
      exact frame.bind later fun results => frame.refl _ _

end Frame

end Cqrs
