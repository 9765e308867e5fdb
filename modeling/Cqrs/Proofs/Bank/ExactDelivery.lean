/-
# Proofs.Bank.ExactDelivery -- every record is announced once

Orders come in one after another, each through the standard pipeline and with an event bus of
its own.  A handler that is subscribed once to every type of event of accounts is given one
event for each record that an account came to keep, in the order of the records; the event
names the record's transaction, amount, way and account.  Nothing is delivered for an order
whose session was not opened or whose handler failed, and nothing twice.

* `flushAround_served` -- one order inside its session;
* `Errand.carryOut_served` -- one order in its own request, sessions included;
* `delivered_exactly_once` -- any orders in a row.
-/
import Cqrs.Proofs.Bank.Wiring
import Cqrs.Proofs.Pipeline

namespace Cqrs.Bank

set_option autoImplicit false

/-! ## Stretches of a request -/

def outcomes (history : List (Activity application)) : List (Except AppError Unit) :=
  history.filterMap fun
    | .completed _ _ _ outcome => some outcome
    | _ => none

theorem outcomes_append (first second : List (Activity application)) :
    outcomes (first ++ second) = outcomes first ++ outcomes second :=
  List.filterMap_append

/-- A stretch of a request with its own bus: what it added to the history, and the entries it
added to the records of the accounts. -/
structure Passes (bus : BusId) (added : List (Activity application)) (entries : List Entry)
    (before after : Broker application) : Prop where
  container : after.container = before.container
  commands : after.commands = before.commands
  subscriptions : after.subscriptions = before.subscriptions
  opened : after.opened = before.opened
  others : ∀ other, other ≠ bus → after.buffer other = before.buffer other
  built : before.state.accounts.Built → after.state.accounts.Built
  records : ∀ id, recordsOf id after.state.accounts =
    recordsOf id before.state.accounts ++ entriesOf id entries
  history : after.history = before.history ++ added

theorem Passes.trans {bus : BusId} {first second : List (Activity application)}
    {some more : List Entry} {a b c : Broker application} (one : Passes bus first some a b)
    (two : Passes bus second more b c) : Passes bus (first ++ second) (some ++ more) a c where
  container := two.container.trans one.container
  commands := two.commands.trans one.commands
  subscriptions := two.subscriptions.trans one.subscriptions
  opened := two.opened.trans one.opened
  others other apart := (two.others other apart).trans (one.others other apart)
  built := two.built ∘ one.built
  records id := by rw [two.records, one.records, List.append_assoc, entriesOf_append]
  history := by rw [two.history, one.history, List.append_assoc]

theorem Passes.of_calm {bus : BusId} {added : List (Activity application)}
    {before after : Broker application} (calm : Calm BankState.accounts before after)
    (history : after.history = before.history ++ added) : Passes bus added [] before after where
  container := calm.container
  commands := calm.commands
  subscriptions := calm.subscriptions
  opened := calm.opened
  others other _ := calm.buffer other
  built built := by
    have same : after.state.accounts = before.state.accounts := calm.view
    rw [same]
    exact built
  records id := by
    have same : after.state.accounts = before.state.accounts := calm.view
    rw [same]
    exact (List.append_nil _).symm
  history := history

theorem Passes.take (bus : BusId) (broker : Broker application) :
    Passes bus [.taken bus (broker.buffer bus)] [] broker (broker.take bus).2 where
  container := rfl
  commands := rfl
  subscriptions := rfl
  opened := rfl
  others other apart := by
    show ((broker.buffers.put bus []).get? other).getD [] = _
    rw [Broker.buffer_put, if_neg (Ne.symm apart)]
  built := id
  records _ := (List.append_nil _).symm
  history := rfl

/-- A stretch of a request leaves the bank wired. -/
theorem Wired.of_passes {bus : BusId} {added : List (Activity application)}
    {entries : List Entry} {before after : Broker application} (wired : Wired before)
    (passes : Passes bus added entries before after) : Wired after where
  orders order := by
    obtain ⟨handler, handle, registered, bound, own⟩ := wired.orders order
    exact ⟨handler, handle, by rw [passes.commands, registered],
      by rw [passes.container, bound], own⟩
  received event handler subscribed := by
    rw [Broker.subscribers, passes.subscriptions] at subscribed
    obtain ⟨handle, bound, reacts⟩ := wired.received event handler subscribed
    exact ⟨handle, by rw [passes.container, bound], reacts⟩
  built := passes.built wired.built

theorem outcomes_of_quiet {added : List (Activity application)}
    (quiet : ∀ activity ∈ added, activity.Quiet) :
    outcomes added = [] ∧ Activity.sessions added = [] := by
  constructor
  · apply List.filterMap_eq_nil_iff.mpr
    intro activity member
    have still := quiet activity member
    cases activity with
    | completed => exact still.elim
    | _ => rfl
  · apply List.filterMap_eq_nil_iff.mpr
    intro activity member
    have still := quiet activity member
    cases activity with
    | session => exact still.elim
    | _ => rfl

/-! ## The session around an order -/

/-- A stretch of a request where only the unit of work is called. -/
structure Clerical (bus : BusId) (added : List (Activity application))
    (before after : Broker application) : Prop where
  passes : Passes bus added [] before after
  waiting : after.buffer bus = before.buffer bus
  outcomes : outcomes added = []
  deliveries : Activity.deliveries added = []

theorem call_clerical {unit : UnitOfWork} {call : SessionCall}
    {outcome : Except DomainError Unit} {before after : Broker application}
    (answered : unit.call call before = (some outcome, after)) (bus : BusId) :
    Clerical bus [.session unit.name call outcome.toBool] before after := by
  unfold UnitOfWork.call at answered
  split at answered
  · cases answered
    exact ⟨.of_calm (.record before _) rfl, rfl, rfl, rfl⟩
  · cases answered
    exact ⟨.of_calm (.record before _) rfl, rfl, rfl, rfl⟩

theorem Clerical.trans {bus : BusId} {first second : List (Activity application)}
    {a b c : Broker application} (one : Clerical bus first a b) (two : Clerical bus second b c) :
    Clerical bus (first ++ second) a c where
  passes := one.passes.trans two.passes
  waiting := two.waiting.trans one.waiting
  outcomes := by rw [outcomes_append, one.outcomes, two.outcomes, List.append_nil]
  deliveries := by
    rw [Activity.deliveries_append, one.deliveries, two.deliveries, List.append_nil]

theorem makes_clerical {depth : Nat} {passage : Passage application}
    {calls : List PipelineCall} {before after : Broker application}
    (makes : passage.Makes depth calls before after)
    (sessions : ∀ call ∈ calls, ∃ kind outcome, call = .session kind outcome) (bus : BusId) :
    ∃ added, Clerical bus added before after := by
  induction makes with
  | done broker =>
      exact ⟨[], .of_calm (.refl broker) (List.append_nil _).symm, rfl, rfl, rfl⟩
  | @logged calls before after record rest ih =>
      obtain ⟨added, clerical⟩ := ih sessions
      have logged : Clerical bus [.logged record] before (before.record (.logged record)) :=
        ⟨.of_calm (.record before _) rfl, rfl, rfl, rfl⟩
      exact ⟨_, logged.trans clerical⟩
  | call leads rest ih =>
      obtain ⟨added, clerical⟩ := ih fun other member =>
        sessions other (List.mem_cons_of_mem _ member)
      obtain ⟨kind, outcome, rfl⟩ := sessions _ (List.mem_cons_self ..)
      exact ⟨_, (call_clerical leads bus).trans clerical⟩

/-- A session always comes to an end, and nothing but calls to its unit of work ends it. -/
theorem conclude_clerical (depth : Nat) (passage : Passage application)
    (outcome : Except AppError Unit) (before : Broker application) (bus : BusId) :
    ∃ answer after added,
      CommandBus.conclude passage.unit passage.command outcome before = (some answer, after) ∧
        Clerical bus added before after := by
  obtain ⟨calls, answer, after, concluded, makes, shape⟩ :=
    Passage.conclude_makes depth passage outcome before
  have sessions : ∀ call ∈ calls, ∃ kind outcome, call = .session kind outcome := by
    intro call member
    rcases shape with ⟨_, rolledBack, _, _, rfl⟩ | ⟨failure, rolledBack, _, _, rfl⟩ | ⟨_, _, rfl⟩
    · exact ⟨.rollback, rolledBack, List.mem_singleton.mp member⟩
    · rcases List.mem_cons.mp member with here | there
      · exact ⟨.commit, _, here⟩
      · exact ⟨.rollback, rolledBack, List.mem_singleton.mp there⟩
    · exact ⟨.commit, _, List.mem_singleton.mp member⟩
  obtain ⟨added, clerical⟩ := makes_clerical makes sessions bus
  exact ⟨answer, after, added, concluded, clerical⟩

/-! ## One order inside its session -/

/-- What became of an order inside its session, and what the observer was given. -/
inductive Handled (observer : String) (order : Order) (added : List (Activity application))
    (entries : List Entry) : Prop
  /-- The handler failed, and nothing was delivered to anyone. -/
  | failed (error : AppError) (ended : outcomes added = [.error error])
      (nothing : Activity.deliveries added = []) (none : entries = [])
  /-- The handler succeeded, and one event was delivered for each record. -/
  | carried (ended : outcomes added = [.ok ()]) (lines : entries.map Entry.line = order.lines)
      (announced : List.Forall₂ Entry.AnnouncedBy entries
        (deliveriesTo observer (Activity.deliveries added)))

/-- The observer is subscribed once to every type of event of accounts. -/
def SubscribedOnce (observer : String) (broker : Broker application) : Prop :=
  ∀ eventType ∈ BalanceChange.eventTypes, (broker.subscribers eventType).count observer = 1

theorem eventType_mem (change : BalanceChange) :
    change.eventType ∈ BalanceChange.eventTypes := by
  cases change <;> simp [BalanceChange.eventType, BalanceChange.eventTypes]

/-- The broker after the handler of an order took over the new state and published the events
of its postings. -/
def booked (broker : Broker application) (bus : BusId) (handler : String) (order : Order)
    (postings : List Posting) (next : BankState) : Broker application :=
  (Broker.publish { broker.record (.handled handler order.kind order.payload) with state := next }
    bus ((postings.map Posting.event).map .account)).record
      (.completed handler order.kind order.payload (.ok ()))

theorem booked_buffer (broker : Broker application) (bus other : BusId) (handler : String)
    (order : Order) (postings : List Posting) (next : BankState) :
    (booked broker bus handler order postings next).buffer other =
      if bus = other then broker.buffer bus ++ (postings.map Posting.event).map .account
      else broker.buffer other :=
  Broker.buffer_put broker bus other _

theorem booked_passes {broker : Broker application} {postings : List Posting}
    {next : BankState} (books : Books postings broker.state.accounts next.accounts)
    (bus : BusId) (handler : String) (order : Order) :
    Passes bus
      [.handled handler order.kind order.payload,
        .published bus ((postings.map Posting.event).map .account),
        .completed handler order.kind order.payload (.ok ())]
      (postings.map Posting.entry) broker (booked broker bus handler order postings next) where
  container := rfl
  commands := rfl
  subscriptions := rfl
  opened := rfl
  others other apart := by rw [booked_buffer, if_neg (Ne.symm apart)]
  built := books.built
  records := books.records
  history := by
    show broker.history ++ [_] ++ [_] ++ [_] = _
    rw [List.append_assoc, List.append_assoc]
    rfl

/-- The flush of a booked order gives the observer the events of its postings, in order. -/
theorem flush_booked {broker : Broker application} (wired : Wired broker) {observer : String}
    (once : SubscribedOnce observer broker) {bus : BusId} (batch : List AccountEvent)
    (waits : broker.buffer bus = batch.map .account) (depth : Nat) :
    ∃ after added, Broker.flush (depth + 1) bus broker = (some (.ok ()), after) ∧
      Passes bus added [] broker after ∧ after.buffer bus = [] ∧ outcomes added = [] ∧
      deliveriesTo observer (Activity.deliveries added) = batch.map .account := by
  have taken := Passes.take bus broker
  have receive : ∀ event ∈ broker.buffer bus,
      ∀ handler ∈ (broker.take bus).2.subscribers (application.eventType event),
        (broker.take bus).2.Receives BankState.accounts event handler := by
    intro event member handler subscribed
    rw [waits] at member
    obtain ⟨own, _, rfl⟩ := List.mem_map.mp member
    exact (wired.of_passes taken).received own handler subscribed
  obtain ⟨after, delivered, quietly⟩ :=
    Broker.deliverAll_quietly (Broker.flush depth) (broker.buffer bus) receive
  obtain ⟨added, history, quiet, deliveries⟩ := quietly.history
  have rest : Passes bus added [] (broker.take bus).2 after := .of_calm quietly.calm history
  refine ⟨after, _, delivered, taken.trans rest, ?_, ?_, ?_⟩
  · rw [quietly.calm.buffer, broker.take_buffer]
  · rw [outcomes_append, (outcomes_of_quiet quiet).1]
    rfl
  · have each : ∀ event ∈ broker.buffer bus,
        ((broker.take bus).2.subscribers (application.eventType event)).count observer = 1 := by
      intro event member
      rw [waits] at member
      obtain ⟨own, _, rfl⟩ := List.mem_map.mp member
      exact once _ (eventType_mem own.change)
    have given := deliveriesTo_batch observer (broker.take bus).2 (broker.buffer bus) each
    rw [Activity.deliveries_append, deliveries]
    exact given.trans waits

/-- What a flushing layer does after a handler that failed without publishing: the bus is left
empty, whether it drops what waits or keeps it. -/
theorem settle_failed (depth : Nat) (policy : FlushPolicy) {bus : BusId} (error : AppError)
    {broker : Broker application} (empty : broker.buffer bus = []) :
    ∃ after added,
      DirectBus.settle depth policy bus (.error error) broker = (some (.error error), after) ∧
        Clerical bus added broker after := by
  cases policy with
  | discardOnFailure =>
      refine ⟨_, _, rfl, .take bus broker, ?_, rfl, rfl⟩
      exact (broker.take_buffer bus).trans empty.symm
  | retainOnFailure =>
      exact ⟨broker, [], rfl, .of_calm (.refl broker) (List.append_nil _).symm, rfl, rfl, rfl⟩

/-- One order inside its session, on a bus that is empty before: it is carried out or not, and
the bus is empty again. -/
theorem flushAround_served {broker : Broker application} (wired : Wired broker)
    {observer : String} (once : SubscribedOnce observer broker) (depth : Nat)
    (policy : FlushPolicy) {context : Context} {bus : BusId}
    (present : context.events = some bus) (empty : broker.buffer bus = []) (order : Order) :
    ∃ outcome after added entries,
      DirectBus.flushAround (depth + 1) policy context
          (Broker.dispatch (depth + 1) context order.kind order.payload) broker =
        (some outcome, after) ∧
      Passes bus added entries broker after ∧ after.buffer bus = [] ∧
      Handled observer order added entries := by
  have layered (inner : Act application (Except AppError Unit)) :
      DirectBus.flushAround (depth + 1) policy context inner =
        inner.bind (DirectBus.settle (depth + 1) policy bus) := by
    simp only [DirectBus.flushAround, Context.eventBus, present]
  rw [layered]
  obtain ⟨handler, ⟨error, dispatched⟩ | ⟨postings, next, books, lines, dispatched⟩⟩ :=
    dispatch_cases wired (depth + 1) present order
  · rw [Act.bind_of_some dispatched]
    have ended : Passes bus [.handled handler order.kind order.payload,
        .completed handler order.kind order.payload (.error error)] [] broker
        ((broker.record (.handled handler order.kind order.payload)).record
          (.completed handler order.kind order.payload (.error error))) :=
      .of_calm ((Calm.record broker _).trans (.record _ _)) (List.append_assoc _ [_] [_])
    have unpublished : ((broker.record (.handled handler order.kind order.payload)).record
        (.completed handler order.kind order.payload (.error error))).buffer bus = [] := empty
    obtain ⟨after, added, settled, clerical⟩ :=
      settle_failed (depth + 1) policy error unpublished
    refine ⟨_, after, _, _, settled, ended.trans clerical.passes, ?_, .failed error ?_ ?_ rfl⟩
    · exact clerical.waiting.trans empty
    · rw [outcomes_append, clerical.outcomes]
      rfl
    · rw [Activity.deliveries_append, clerical.deliveries]
      rfl
  · rw [Act.bind_of_some dispatched]
    have passes := booked_passes books bus handler order
    have waits : (booked broker bus handler order postings next).buffer bus =
        (postings.map Posting.event).map .account := by
      rw [booked_buffer, if_pos rfl, empty, List.nil_append]
    -- the batch of the flush is this order's events alone, because nothing waited before
    have still : SubscribedOnce observer (booked broker bus handler order postings next) := once
    obtain ⟨after, added, flushed, rest, emptied, ended, given⟩ :=
      flush_booked (wired.of_passes passes) still (postings.map Posting.event) waits depth
    refine ⟨_, after, _, _, flushed, passes.trans rest, emptied, .carried ?_ ?_ ?_⟩
    · rw [outcomes_append, ended]
      rfl
    · rw [List.append_nil, ← lines, List.map_map]
      rfl
    · rw [List.append_nil, Activity.deliveries_append, deliveriesTo_append, given]
      exact Posting.announced postings

/-! ## One order in its own request -/

/-- An order on its way through the standard pipeline. -/
structure Errand where
  order : Order
  unit : UnitOfWork
  policy : FlushPolicy

namespace Errand

/-- Carries out the order in a request with an event bus of its own. -/
def carryOut (depth : Nat) (errand : Errand) : Act application (Except AppError Unit) :=
  fun broker =>
    let (context, broker) := openRequest broker
    (pipeline errand.unit errand.policy).dispatch depth context errand.order.kind
      errand.order.payload broker

/-- What became of an order in its request, and what the observer was given. -/
inductive Course (observer : String) (errand : Errand) (added : List (Activity application))
    (entries : List Entry) : Prop
  /-- The session was not opened, and nothing else happened. -/
  | refused (sessions : Activity.sessions added = [(errand.unit.name, .createSession, false)])
      (unhandled : outcomes added = []) (nothing : Activity.deliveries added = [])
      (none : entries = [])
  /-- The session was opened, and the order was handled in it. -/
  | handled (opened : (Activity.sessions added).head? =
        some (errand.unit.name, .createSession, true))
      (handled : Handled observer errand.order added entries)

end Errand

/-- The clerical stretches before and after an order change nothing of what became of it. -/
theorem Handled.within {observer : String} {order : Order} {bus : BusId}
    {first added last : List (Activity application)} {entries : List Entry}
    {a b c d : Broker application} (handled : Handled observer order added entries)
    (opening : Clerical bus first a b) (ending : Clerical bus last c d) :
    Handled observer order (first ++ (added ++ last)) entries := by
  have ended : outcomes (first ++ (added ++ last)) = outcomes added := by
    rw [outcomes_append, outcomes_append, opening.outcomes, ending.outcomes, List.append_nil,
      List.nil_append]
  have given : Activity.deliveries (first ++ (added ++ last)) = Activity.deliveries added := by
    rw [Activity.deliveries_append, Activity.deliveries_append, opening.deliveries,
      ending.deliveries, List.append_nil, List.nil_append]
  cases handled with
  | failed error outcome nothing none =>
      exact .failed error (ended.trans outcome) (given.trans nothing) none
  | carried outcome lines announced =>
      rw [← given] at announced
      exact .carried (ended.trans outcome) lines announced

/-- What some requests, each with a new bus, did to the bank: the buses that they opened are
empty, all others are as they were. -/
structure Served (count : Nat) (added : List (Activity application)) (entries : List Entry)
    (before after : Broker application) : Prop where
  wired : Wired before → Wired after
  subscriptions : after.subscriptions = before.subscriptions
  opened : after.opened = before.opened + count
  emptied : ∀ bus : BusId, before.opened ≤ bus.number → bus.number < before.opened + count →
    after.buffer bus = []
  others : ∀ bus : BusId, bus.number < before.opened ∨ before.opened + count ≤ bus.number →
    after.buffer bus = before.buffer bus
  records : ∀ id, recordsOf id after.state.accounts =
    recordsOf id before.state.accounts ++ entriesOf id entries
  history : after.history = before.history ++ added

theorem openRequest_buffer (broker : Broker application) (bus : BusId) :
    (openRequest broker).2.buffer bus = if ⟨broker.opened⟩ = bus then [] else broker.buffer bus :=
  Broker.buffer_put broker ⟨broker.opened⟩ bus []

/-- A stretch on the bus of a new request serves the bank once. -/
theorem Served.of_passes {broker after : Broker application}
    {added : List (Activity application)} {entries : List Entry}
    (passes : Passes ⟨broker.opened⟩ added entries (openRequest broker).2 after)
    (empty : after.buffer ⟨broker.opened⟩ = []) : Served 1 added entries broker after where
  wired wired := by
    have opened : Wired (openRequest broker).2 := ⟨wired.orders, wired.received, wired.built⟩
    exact opened.of_passes passes
  subscriptions := passes.subscriptions
  opened := passes.opened
  emptied bus lower upper := by
    have same : bus = ⟨broker.opened⟩ := by
      obtain ⟨number⟩ := bus
      congr 1
      simp only at lower upper
      omega
    rw [same, empty]
  others bus apart := by
    have other : bus ≠ ⟨broker.opened⟩ := by
      rintro rfl
      simp only at apart
      omega
    rw [passes.others bus other, openRequest_buffer, if_neg (Ne.symm other)]
  records := passes.records
  history := passes.history

theorem Served.refl (broker : Broker application) : Served 0 [] [] broker broker where
  wired := id
  subscriptions := rfl
  opened := rfl
  emptied bus lower upper := by omega
  others _ _ := rfl
  records _ := (List.append_nil _).symm
  history := (List.append_nil _).symm

theorem Served.subscribedOnce {count : Nat} {added : List (Activity application)}
    {entries : List Entry} {before after : Broker application} {observer : String}
    (served : Served count added entries before after) (once : SubscribedOnce observer before) :
    SubscribedOnce observer after := by
  intro eventType member
  rw [Broker.subscribers, served.subscriptions]
  exact once eventType member

theorem Served.trans {count further : Nat} {first second : List (Activity application)}
    {some more : List Entry} {a b c : Broker application} (one : Served count first some a b)
    (two : Served further second more b c) :
    Served (count + further) (first ++ second) (some ++ more) a c where
  wired := two.wired ∘ one.wired
  subscriptions := two.subscriptions.trans one.subscriptions
  opened := by rw [two.opened, one.opened, Nat.add_assoc]
  emptied bus lower upper := by
    -- a bus of the first requests is one of the others to the later ones
    by_cases early : bus.number < a.opened + count
    · rw [two.others bus (Or.inl (by rw [one.opened]; exact early))]
      exact one.emptied bus lower early
    · apply two.emptied bus
      · rw [one.opened]
        omega
      · rw [one.opened]
        omega
  others bus apart := by
    have beside : bus.number < b.opened ∨ b.opened + further ≤ bus.number := by
      rw [one.opened]
      omega
    rw [two.others bus beside]
    exact one.others bus (by omega)
  records id := by rw [two.records, one.records, List.append_assoc, entriesOf_append]
  history := by rw [two.history, one.history, List.append_assoc]

/-- One order in its own request has an answer, serves the bank and takes its course. -/
theorem Errand.carryOut_served {broker : Broker application} (wired : Wired broker)
    {observer : String} (once : SubscribedOnce observer broker) (depth : Nat) (errand : Errand) :
    ∃ answer after added entries, errand.carryOut (depth + 1) broker = (some answer, after) ∧
      Served 1 added entries broker after ∧ errand.Course observer added entries := by
  have ready : Wired (openRequest broker).2 := ⟨wired.orders, wired.received, wired.built⟩
  have fresh : (openRequest broker).2.buffer ⟨broker.opened⟩ = [] := by
    rw [openRequest_buffer, if_pos rfl]
  obtain ⟨outcome, started, answered⟩ :=
    Passage.call_answers errand.unit .createSession (openRequest broker).2
  have opening := call_clerical answered ⟨broker.opened⟩
  cases outcome with
  | error failure =>
      have served := Served.of_passes opening.passes (opening.waiting.trans fresh)
      exact ⟨_, started, _, [], Act.bind_of_some answered, served, .refused rfl rfl rfl rfl⟩
  | ok =>
      have waits : started.buffer ⟨broker.opened⟩ = [] := opening.waiting.trans fresh
      have still : SubscribedOnce observer started := by
        intro eventType member
        rw [Broker.subscribers, opening.passes.subscriptions]
        exact once eventType member
      have present : (openRequest broker).1.events = some ⟨broker.opened⟩ := rfl
      obtain ⟨outcome, middle, added, entries, layered, passes, empty, handled⟩ :=
        flushAround_served (ready.of_passes opening.passes) still depth errand.policy present
          waits errand.order
      obtain ⟨answer, after, last, concluded, ending⟩ :=
        conclude_clerical (depth + 1)
          (Passage.through errand.unit errand.policy .container (depth + 1)
            (openRequest broker).1 errand.order.kind errand.order.payload)
          outcome middle ⟨broker.opened⟩
      have all := opening.passes.trans (passes.trans ending.passes)
      rw [List.nil_append, List.append_nil] at all
      refine ⟨answer, after, _, entries, ?_, .of_passes all (ending.waiting.trans empty),
        .handled rfl (handled.within opening ending)⟩
      exact (Act.bind_of_some answered).trans ((Act.bind_of_some layered).trans concluded)

/-! ## Orders in a row -/

/-- What came of one of many orders: what it added to the history, and its entries. -/
structure Receipt where
  errand : Errand
  added : List (Activity application)
  entries : List Entry

def Receipt.Holds (observer : String) (receipt : Receipt) : Prop :=
  receipt.errand.Course observer receipt.added receipt.entries

/-- All that the observer was given in a request tells of its entries, one by one. -/
theorem Errand.Course.announced {observer : String} {errand : Errand}
    {added : List (Activity application)} {entries : List Entry}
    (course : errand.Course observer added entries) :
    List.Forall₂ Entry.AnnouncedBy entries
      (deliveriesTo observer (Activity.deliveries added)) := by
  cases course with
  | refused sessions unhandled nothing none =>
      rw [none, nothing]
      exact .nil
  | handled opened handled =>
      cases handled with
      | failed error ended nothing none =>
          rw [none, nothing]
          exact .nil
      | carried ended lines announced => exact announced

/-- Over many orders, too, the observer is given one event for each entry. -/
theorem receipts_announced {observer : String} {receipts : List Receipt}
    (holds : ∀ receipt ∈ receipts, receipt.Holds observer) :
    List.Forall₂ Entry.AnnouncedBy (receipts.flatMap Receipt.entries)
      (deliveriesTo observer (Activity.deliveries (receipts.flatMap Receipt.added))) := by
  induction receipts with
  | nil => exact .nil
  | cons receipt rest ih =>
      have first := Errand.Course.announced (holds receipt (List.mem_cons_self ..))
      have later := ih fun other member => holds other (List.mem_cons_of_mem _ member)
      rw [List.flatMap_cons, List.flatMap_cons, Activity.deliveries_append, deliveriesTo_append]
      exact List.rel_append first later

theorem each_served {observer : String} (depth : Nat) (errands : List Errand)
    {broker : Broker application} (wired : Wired broker) (once : SubscribedOnce observer broker) :
    ∃ answers after, ∃ receipts : List Receipt,
      Act.each (errands.map (Errand.carryOut (depth + 1))) broker = (some answers, after) ∧
      receipts.map Receipt.errand = errands ∧
      (∀ receipt ∈ receipts, receipt.Holds observer) ∧
      Served errands.length (receipts.flatMap Receipt.added) (receipts.flatMap Receipt.entries)
        broker after := by
  induction errands generalizing broker with
  | nil =>
      exact ⟨[], broker, [], rfl, rfl, fun _ member => (List.not_mem_nil member).elim,
        .refl broker⟩
  | cons errand rest ih =>
      obtain ⟨answer, middle, added, entries, ran, first, course⟩ :=
        Errand.carryOut_served wired once depth errand
      obtain ⟨answers, after, receipts, others, named, holds, later⟩ :=
        ih (first.wired wired) (first.subscribedOnce once)
      refine ⟨answer :: answers, after, ⟨errand, added, entries⟩ :: receipts, ?_, ?_, ?_, ?_⟩
      · rw [List.map_cons, Act.each_of_some ran, others]
        rfl
      · rw [List.map_cons, named]
      · intro receipt member
        rcases List.mem_cons.mp member with rfl | inRest
        · exact course
        · exact holds receipt inRest
      · rw [List.length_cons, Nat.add_comm]
        exact first.trans later

/-- **Every record is announced once.**  In a wired bank, orders come in one after another, each
in its own request, whatever the policies and the sessions come to.  All of them have an answer.
A handler that is subscribed once to each type of event is given exactly one event for each
record that an account came to keep, in the order of the records and telling of each; order by
order, nothing is delivered where the session was not opened or the handler failed, and
otherwise the records are those the order asked for.  The accounts keep these records beside
their old ones, the buses of the requests are empty, and other buses are as they were. -/
theorem delivered_exactly_once (depth : Nat) (errands : List Errand)
    (broker : Broker application) (observer : String) (wired : Wired broker)
    (once : SubscribedOnce observer broker) :
    ∃ answers after, ∃ receipts : List Receipt,
      Act.each (errands.map (Errand.carryOut (depth + 1))) broker = (some answers, after) ∧
      receipts.map Receipt.errand = errands ∧
      after.history = broker.history ++ receipts.flatMap Receipt.added ∧
      (∀ id, recordsOf id after.state.accounts = recordsOf id broker.state.accounts ++
        entriesOf id (receipts.flatMap Receipt.entries)) ∧
      List.Forall₂ Entry.AnnouncedBy (receipts.flatMap Receipt.entries)
        (deliveriesTo observer (Activity.deliveries (receipts.flatMap Receipt.added))) ∧
      (∀ receipt ∈ receipts, receipt.errand.Course observer receipt.added receipt.entries) ∧
      (∀ bus : BusId, broker.opened ≤ bus.number →
        bus.number < broker.opened + errands.length → after.buffer bus = []) ∧
      ∀ bus : BusId, bus.number < broker.opened ∨
        broker.opened + errands.length ≤ bus.number → after.buffer bus = broker.buffer bus := by
  obtain ⟨answers, after, receipts, ran, named, holds, served⟩ :=
    each_served depth errands wired once
  exact ⟨answers, after, receipts, ran, named, served.history, served.records,
    receipts_announced holds, holds, served.emptied, served.others⟩

/-- Errands to the small bank: one is not covered, one is refused a session and one commits in
vain. -/
def smallErrands : List Errand := [
  ⟨.deposit ⟨"acc-a", 25, "USD"⟩, .failing "unit" [], .discardOnFailure⟩,
  ⟨.withdraw ⟨"acc-b", 60, "USD"⟩, .failing "unit" [.rollback], .retainOnFailure⟩,
  ⟨.deposit ⟨"acc-b", 5, "USD"⟩, .failing "unit" [.createSession], .discardOnFailure⟩,
  ⟨.transfer ⟨"acc-b", "acc-a", 30, "USD"⟩, .failing "unit" [.commit], .retainOnFailure⟩]

theorem smallBank_built : smallBank.accounts.Built := .save (.save .empty _) _

def linesLeft (history : List (Activity application)) : List String :=
  history.filterMap fun
    | .noted line => some line
    | _ => none

/-- The auditor takes down a deposit and both sides of a transfer, and nothing else. -/
theorem delivered_exactly_once_smallBank :
    Wired (audited (assemble smallBank)) ∧
      SubscribedOnce auditHandler (audited (assemble smallBank)) ∧
      ∃ answers after, ∃ receipts : List Receipt,
        Act.each (smallErrands.map (Errand.carryOut 1)) (audited (assemble smallBank)) =
          (some answers, after) ∧
        List.Forall₂ Entry.AnnouncedBy (receipts.flatMap Receipt.entries)
          (deliveriesTo auditHandler (Activity.deliveries (receipts.flatMap Receipt.added))) ∧
        linesLeft after.history = (deliveriesTo auditHandler
          (Activity.deliveries (receipts.flatMap Receipt.added))).map auditLine ∧
        linesLeft after.history = ["bank_account.money_deposited@acc-a 25",
          "bank_account.money_transferred_out@acc-b 30",
          "bank_account.money_transferred_in@acc-a 30"] := by
  have wired : Wired (audited (assemble smallBank)) :=
    audited_wired (assemble_wired smallBank_built) rfl
  have once : SubscribedOnce auditHandler (audited (assemble smallBank)) := by
    unfold SubscribedOnce
    decide +kernel
  obtain ⟨answers, after, receipts, ran, _, history, _, announced, _⟩ :=
    delivered_exactly_once 0 smallErrands (audited (assemble smallBank)) auditHandler wired once
  have after_eq : after = (Act.each (smallErrands.map (Errand.carryOut 1))
      (audited (assemble smallBank))).2 := (congrArg Prod.snd ran).symm
  have added : receipts.flatMap Receipt.added = after.history := by
    rw [history]
    rfl
  refine ⟨wired, once, answers, after, receipts, ran, announced, ?_, ?_⟩
  · rw [added, after_eq]
    decide +kernel
  · rw [after_eq]
    decide +kernel

end Cqrs.Bank
