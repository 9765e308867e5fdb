/-
# Proofs.Retention -- what waits on a bus from one command to the next

Commands go through a flushing layer around the container, one after another, and share one
event bus.  Their handlers publish events; the handlers of events are all there, succeed and may
publish events that follow.  What waits on the bus when a command is through is then determined by
how it ended (`Turn.Ends`), so one turn after another tells the whole run (`Turn.Sequence`).

* `Submission.carryOut_forwards`, `flush_forwards` -- handlers only add to what waits;
* `Submission.submit_leads` -- one command, with or without success;
* `Turn.Sequence.held`, `Turn.Sequence.balance` -- what failed commands leave to the next success,
  and what becomes of all events where nothing is dropped;
* `delivered_by_next_success` -- runs of any length.
-/
import Cqrs.Proofs.Delivery
import Cqrs.Sample.Notebook

namespace Cqrs

set_option autoImplicit false

variable {A : Application}

/-! ## Handlers that publish -/

/-- Effects that take nothing out of a buffer and leave bindings and subscriptions alone. -/
def Effect.Publishing : Effect A → Prop
  | .note _ | .log _ | .inspect | .update _ | .publish _ _ | .pending _ => True
  | .subscribe _ _ | .unbind _ | .discard _ | .flush _ => False

/-- A run that added to the history and, with that, to what waits on the buses. -/
structure Forwards (added : List (Activity A)) (before after : Broker A) : Prop where
  container : after.container = before.container
  subscriptions : after.subscriptions = before.subscriptions
  history : after.history = before.history ++ added
  waiting : ∀ bus, after.buffer bus = before.buffer bus ++ Activity.publications bus added

/-- A run that forwards, with these deliveries. -/
def Forwarded (delivered : List (String × A.Event)) (before after : Broker A) : Prop :=
  ∃ added, Forwards added before after ∧ Activity.deliveries added = delivered

theorem publications_append (bus : BusId) (first second : List (Activity A)) :
    Activity.publications bus (first ++ second) =
      Activity.publications bus first ++ Activity.publications bus second :=
  List.flatMap_append

theorem Forwards.trans {first second : List (Activity A)} {a b c : Broker A}
    (one : Forwards first a b) (two : Forwards second b c) : Forwards (first ++ second) a c where
  container := two.container.trans one.container
  subscriptions := two.subscriptions.trans one.subscriptions
  history := by rw [two.history, one.history, List.append_assoc]
  waiting bus := by rw [two.waiting, one.waiting, publications_append, List.append_assoc]

theorem Forwards.nothing {before after : Broker A} (container : after.container = before.container)
    (subscriptions : after.subscriptions = before.subscriptions)
    (history : after.history = before.history) (buffers : after.buffers = before.buffers) :
    Forwards [] before after where
  container := container
  subscriptions := subscriptions
  history := by simp [history]
  waiting bus := by simp [Broker.buffer, buffers, Activity.publications]

/-- A line of the history that publishes nothing. -/
theorem Forwards.record (broker : Broker A) (activity : Activity A)
    (unpublished : ∀ bus, Activity.publication bus activity = []) :
    Forwards [activity] broker (broker.record activity) where
  container := rfl
  subscriptions := rfl
  history := rfl
  waiting bus := by
    have nothing : Activity.publications bus [activity] = [] := by
      simp [Activity.publications, unpublished bus]
    rw [nothing, List.append_nil]
    rfl

theorem Forwards.publish (broker : Broker A) (bus : BusId) (events : List A.Event) :
    Forwards [.published bus events] broker (broker.publish bus events) where
  container := rfl
  subscriptions := rfl
  history := rfl
  waiting other := by
    show ((broker.buffers.put bus (broker.buffer bus ++ events)).get? other).getD [] = _
    rw [Broker.buffer_put]
    by_cases same : bus = other
    · simp [Activity.publications, Activity.publication, same]
    · simp [Activity.publications, Activity.publication, same]

theorem effect_forwarded {effect : Effect A} (publishing : effect.Publishing)
    (flush : BusId → Act A (Except AppError Unit)) (broker : Broker A) :
    ∃ response after, effect.carryOut flush broker = (some response, after) ∧
      Forwarded [] broker after := by
  cases effect with
  | note line => exact ⟨(), _, rfl, [.noted line], .record broker _ fun _ => rfl, rfl⟩
  | log record => exact ⟨(), _, rfl, [.logged record], .record broker _ fun _ => rfl, rfl⟩
  | inspect => exact ⟨broker.state, broker, rfl, [], .nothing rfl rfl rfl rfl, rfl⟩
  | update change => exact ⟨(), _, rfl, [], .nothing rfl rfl rfl rfl, rfl⟩
  | publish bus events =>
      exact ⟨(), _, rfl, [.published bus events], .publish broker bus events, rfl⟩
  | pending bus => exact ⟨broker.pending bus, broker, rfl, [], .nothing rfl rfl rfl rfl, rfl⟩
  | subscribe | unbind | discard | flush => exact publishing.elim

theorem forwarded_steady : Steady Effect.Publishing (Forwarded (A := A)) where
  refl broker := ⟨[], .nothing rfl rfl rfl rfl, rfl⟩
  trans := by
    rintro _ _ a b c ⟨first, one, rfl⟩ ⟨second, two, rfl⟩
    exact ⟨first ++ second, one.trans two, Activity.deliveries_append first second⟩
  container := by
    rintro _ a b ⟨added, forwards, _⟩
    exact forwards.container
  subscriptions := by
    rintro _ a b ⟨added, forwards, _⟩
    exact forwards.subscriptions
  effect _ flush broker publishing := effect_forwarded publishing flush broker
  notified handler event broker :=
    ⟨[.notified handler event], .record broker _ fun _ => rfl, rfl⟩

/-- Handlers of commands publish, and every subscription is that of a handler of events that is
bound, publishes and succeeds. -/
structure Broker.Forwarding (broker : Broker A) : Prop where
  commands : broker.CommandsOnly Effect.Publishing
  events : ∀ eventType handler, (eventType, handler) ∈ broker.subscriptions →
    ∀ event, A.eventType event = eventType → broker.Takes Effect.Publishing event handler

namespace Broker.Forwarding

theorem of_same {before after : Broker A} (forwarding : before.Forwarding)
    (container : after.container = before.container)
    (subscriptions : after.subscriptions = before.subscriptions) : after.Forwarding where
  commands id kind handle bound := forwarding.commands id kind handle (by rw [← container, bound])
  events eventType handler subscribed event typed := by
    rw [subscriptions] at subscribed
    obtain ⟨handle, bound, reacts⟩ := forwarding.events eventType handler subscribed event typed
    exact ⟨handle, by rw [container, bound], reacts⟩

theorem takes {broker : Broker A} (forwarding : broker.Forwarding) (event : A.Event)
    {handler : String} (subscribed : handler ∈ broker.subscribers (A.eventType event)) :
    broker.Takes Effect.Publishing event handler := by
  obtain ⟨⟨eventType, other⟩, listed, rfl⟩ := List.mem_map.mp subscribed
  obtain ⟨member, same⟩ := List.mem_filter.mp listed
  exact forwarding.events eventType other member event (of_decide_eq_true same).symm

end Broker.Forwarding

/-- A flush delivers what waits, and what waits after it is what was published in it. -/
theorem flush_forwards (depth : Nat) (bus : BusId) {broker : Broker A}
    (forwarding : broker.Forwarding) :
    ∃ flushed after, Broker.flush (depth + 1) bus broker = (some (.ok ()), after) ∧
      Forwards flushed (broker.take bus).2 after ∧
      Activity.deliveries flushed = broker.addressed (broker.buffer bus) := by
  have taken : (broker.take bus).2.Forwarding := forwarding.of_same rfl rfl
  obtain ⟨after, delivered, flushed, forwards, deliveries⟩ :=
    forwarded_steady.deliverAll (Broker.flush depth) (broker.buffer bus) fun event _ _ subscribed =>
      taken.takes event subscribed
  exact ⟨flushed, after, delivered, forwards, deliveries⟩

/-! ## Submissions -/

/-- A command on its way through a flushing layer around the container. -/
structure Submission (A : Application) where
  policy : FlushPolicy
  context : Context
  kind : A.Command
  payload : A.Payload kind

namespace Submission

/-- Carries the command out, without the layer. -/
def carryOut (depth : Nat) (submission : Submission A) : Act A (Except AppError Unit) :=
  Broker.dispatch depth submission.context submission.kind submission.payload

/-- Carries the command out and flushes its events. -/
def submit (depth : Nat) (submission : Submission A) : Act A (Except AppError Unit) :=
  (DirectBus.flushing submission.policy .container).dispatch depth submission.context
    submission.kind submission.payload

/-- A command is answered, and no event is delivered before the flush. -/
theorem carryOut_forwards (depth : Nat) (submission : Submission A) {broker : Broker A}
    (forwarding : broker.Forwarding) :
    ∃ outcome middle, submission.carryOut depth broker = (some outcome, middle) ∧
      Forwarded [] broker middle := by
  unfold carryOut Broker.dispatch
  split
  · exact ⟨_, _, rfl, [.logged _], .record broker _ fun _ => rfl, rfl⟩
  · rename_i handler _
    split
    · exact ⟨_, broker, rfl, forwarded_steady.refl broker⟩
    · rename_i binding resolved
      split
      · rename_i handle isCommand
        have bound := Broker.resolve_ok resolved
        rw [Binding.asCommand?_eq_some isCommand] at bound
        have only := forwarding.commands handler submission.kind handle bound
          submission.context submission.payload
        obtain ⟨outcome, middle, ran, forwarded⟩ := forwarded_steady.run only (Broker.flush depth)
          (broker.record (.handled handler submission.kind submission.payload))
        have begun : Forwarded [] broker
            (broker.record (.handled handler submission.kind submission.payload)) :=
          ⟨[.handled handler submission.kind submission.payload],
            .record broker _ fun _ => rfl, rfl⟩
        have ended : Forwarded [] middle
            (middle.record (.completed handler submission.kind submission.payload outcome)) :=
          ⟨[.completed handler submission.kind submission.payload outcome],
            .record middle _ fun _ => rfl, rfl⟩
        exact ⟨outcome, _, Act.bind_of_some ran,
          forwarded_steady.trans begun (forwarded_steady.trans forwarded ended)⟩
      · exact ⟨_, broker, rfl, forwarded_steady.refl broker⟩

end Submission

/-! ## Turns -/

namespace FlushPolicy

/-- What a policy leaves of the events that wait when a command failed. -/
def leaves (waits : List A.Event) : FlushPolicy → List A.Event
  | .discardOnFailure => []
  | .retainOnFailure => waits

/-- What a policy adds to the history when a command failed. -/
def clearing (bus : BusId) (waits : List A.Event) : FlushPolicy → List (Activity A)
  | .discardOnFailure => [.taken bus waits]
  | .retainOnFailure => []

end FlushPolicy

/-- A submission with its result and with what it added to the history: first the command, then
the layer around it. -/
structure Turn (A : Application) where
  submission : Submission A
  result : Except AppError Unit
  handled : List (Activity A)
  settled : List (Activity A)

namespace Turn

def added (turn : Turn A) : List (Activity A) := turn.handled ++ turn.settled

def published (bus : BusId) (turn : Turn A) : List A.Event :=
  Activity.publications bus turn.handled

def delivered (turn : Turn A) : List (String × A.Event) := Activity.deliveries turn.settled

/-- The events that were published on a bus in the flush. -/
def followUps (bus : BusId) (turn : Turn A) : List A.Event :=
  Activity.publications bus turn.settled

/-- How a turn ends that leads from the one broker to the other. -/
inductive Ends (depth : Nat) (bus : BusId) : Turn A → Broker A → Broker A → Prop
  /-- Without an event bus no handler is given the command, and nothing changes. -/
  | busless {submission : Submission A} {broker : Broker A}
      (without : submission.context.events = none) :
      Ends depth bus ⟨submission, .error .missingEventBus, [], []⟩ broker broker
  /-- The command failed, and its error is the result.  Nothing is delivered; of what waited and
  what the command published, the policy says what is left. -/
  | failed {submission : Submission A} {before middle after : Broker A}
      {handled : List (Activity A)} {error : AppError}
      (present : submission.context.events = some bus)
      (refused : submission.carryOut depth before = (some (.error error), middle))
      (carried : middle.history = before.history ++ handled)
      (undelivered : Activity.deliveries handled = [])
      (left : after.buffer bus = submission.policy.leaves
        (before.buffer bus ++ Activity.publications bus handled)) :
      Ends depth bus ⟨submission, .error error, handled, submission.policy.clearing bus
        (before.buffer bus ++ Activity.publications bus handled)⟩ before after
  /-- The command succeeded.  What waited and, after that, what the command published is
  delivered, and what the handlers of these events published is left. -/
  | flushed {submission : Submission A} {before middle after : Broker A}
      {handled settled : List (Activity A)}
      (present : submission.context.events = some bus)
      (accepted : submission.carryOut depth before = (some (.ok ()), middle))
      (carried : middle.history = before.history ++ handled)
      (undelivered : Activity.deliveries handled = [])
      (delivered : Activity.deliveries settled =
        before.addressed (before.buffer bus ++ Activity.publications bus handled))
      (left : after.buffer bus = Activity.publications bus settled) :
      Ends depth bus ⟨submission, .ok (), handled, settled⟩ before after

/-- The turn leads from the one broker to the other, with the same bindings and subscriptions. -/
structure Leads (depth : Nat) (bus : BusId) (turn : Turn A) (before after : Broker A) :
    Prop where
  container : after.container = before.container
  subscriptions : after.subscriptions = before.subscriptions
  history : after.history = before.history ++ turn.added
  ends : turn.Ends depth bus before after

end Turn

theorem clearing_deliveries (bus : BusId) (waits : List A.Event) (policy : FlushPolicy) :
    Activity.deliveries (policy.clearing (A := A) bus waits) = [] := by
  cases policy <;> rfl

theorem clearing_publications (bus : BusId) (waits : List A.Event) (policy : FlushPolicy) :
    Activity.publications bus (policy.clearing (A := A) bus waits) = [] := by
  cases policy <;> rfl

/-- After an error the layer ends with it, and the policy says what is left. -/
theorem settle_error_leaves (depth : Nat) (policy : FlushPolicy) (bus : BusId) (error : AppError)
    (middle : Broker A) :
    ∃ after, DirectBus.settle depth policy bus (.error error) middle =
        (some (.error error), after) ∧
      after.container = middle.container ∧ after.subscriptions = middle.subscriptions ∧
      after.history = middle.history ++ policy.clearing bus (middle.buffer bus) ∧
      after.buffer bus = policy.leaves (middle.buffer bus) := by
  cases policy with
  | discardOnFailure =>
      exact ⟨(middle.discard bus).2, rfl, rfl, rfl, rfl, middle.take_buffer bus⟩
  | retainOnFailure => exact ⟨middle, rfl, rfl, rfl, (List.append_nil _).symm, rfl⟩

/-- **One turn.**  A submission is answered, and its turn ends in one of three ways. -/
theorem Submission.submit_leads (depth : Nat) (bus : BusId) (submission : Submission A)
    {broker : Broker A} (forwarding : broker.Forwarding)
    (shared : submission.context.events = none ∨ submission.context.events = some bus) :
    ∃ (turn : Turn A) (after : Broker A),
      submission.submit (depth + 1) broker = (some turn.result, after) ∧
        turn.submission = submission ∧ turn.Leads (depth + 1) bus broker after := by
  rcases shared with without | present
  · refine ⟨⟨submission, .error .missingEventBus, [], []⟩, broker, ?_, rfl, rfl, rfl, ?_,
      .busless without⟩
    · simp only [submit, DirectBus.dispatch, DirectBus.flushAround, Context.eventBus, without]
      rfl
    · simp [Turn.added]
  · obtain ⟨outcome, middle, carried, handled, forwards, undelivered⟩ :=
      submission.carryOut_forwards (depth + 1) forwarding
    have layered : submission.submit (depth + 1) broker =
        DirectBus.settle (depth + 1) submission.policy bus outcome middle := by
      simp only [submit, DirectBus.dispatch, DirectBus.flushAround, Context.eventBus, present]
      exact Act.bind_of_some carried
    have waits := forwards.waiting bus
    cases outcome with
    | error error =>
        obtain ⟨after, settled, container, subscriptions, history, left⟩ :=
          settle_error_leaves (depth + 1) submission.policy bus error middle
        rw [waits] at history left
        refine ⟨⟨submission, .error error, handled, _⟩, after, layered.trans settled, rfl,
          container.trans forwards.container, subscriptions.trans forwards.subscriptions, ?_,
          .failed present carried forwards.history undelivered left⟩
        rw [history, forwards.history, Turn.added, List.append_assoc]
    | ok =>
        have same : middle.Forwarding := forwarding.of_same forwards.container
          forwards.subscriptions
        obtain ⟨flushed, after, succeeded, following, deliveries⟩ := flush_forwards depth bus same
        have addressed : middle.addressed (middle.buffer bus) =
            broker.addressed (middle.buffer bus) := by
          simp only [Broker.addressed, Broker.subscribers, forwards.subscriptions]
        rw [addressed, waits] at deliveries
        refine ⟨⟨submission, .ok (), handled, .taken bus (middle.buffer bus) :: flushed⟩, after,
          layered.trans succeeded, rfl, following.container.trans forwards.container,
          following.subscriptions.trans forwards.subscriptions, ?_,
          .flushed present carried forwards.history undelivered deliveries ?_⟩
        · rw [following.history, Turn.added, ← List.append_assoc, ← forwards.history]
          exact List.append_assoc _ [_] _
        · rw [following.waiting bus, middle.take_buffer bus]
          rfl

/-! ## One turn after another -/

/-- The turns lead from the one broker to the other, one after another. -/
inductive Turn.Sequence (depth : Nat) (bus : BusId) :
    Broker A → List (Turn A) → Broker A → Prop
  | done (broker : Broker A) : Sequence depth bus broker [] broker
  | turn {before middle after : Broker A} {turn : Turn A} {rest : List (Turn A)}
      (first : turn.Leads depth bus before middle) (later : Sequence depth bus middle rest after) :
      Sequence depth bus before (turn :: rest) after

/-- The turn is that of a command that failed, behind a layer that keeps the events then. -/
def Turn.Held (turn : Turn A) : Prop :=
  turn.submission.policy = .retainOnFailure ∧ turn.result ≠ .ok ()

namespace Turn

variable {depth : Nat} {bus : BusId}

theorem Ends.undelivered {turn : Turn A} {before after : Broker A}
    (ends : turn.Ends depth bus before after) : Activity.deliveries turn.handled = [] := by
  cases ends with
  | busless without => rfl
  | failed present refused carried undelivered left => exact undelivered
  | flushed present accepted carried undelivered delivered left => exact undelivered

/-- A turn that is held leaves what waited and what its command published. -/
theorem Ends.held {turn : Turn A} {before after : Broker A}
    (ends : turn.Ends depth bus before after) (held : turn.Held) :
    after.buffer bus = before.buffer bus ++ turn.published bus := by
  obtain ⟨retains, failed⟩ := held
  cases ends with
  | busless without => simp [published, Activity.publications]
  | failed present refused carried undelivered left =>
      simp only at retains
      rw [left, retains]
      rfl
  | flushed => exact absurd rfl failed

theorem Ends.flushes {turn : Turn A} {before after : Broker A}
    (ends : turn.Ends depth bus before after) (succeeded : turn.result = .ok ()) :
    turn.delivered = before.addressed (before.buffer bus ++ turn.published bus) := by
  cases ends with
  | busless without => cases succeeded
  | failed present refused carried undelivered left => cases succeeded
  | flushed present accepted carried undelivered delivered left => exact delivered

/-- Where nothing is dropped, what waited and what is published is what is delivered and what
waits then. -/
theorem Ends.balance {turn : Turn A} {before after : Broker A}
    (ends : turn.Ends depth bus before after)
    (retains : turn.submission.policy = .retainOnFailure) :
    ∃ batch, turn.delivered = before.addressed batch ∧
      before.buffer bus ++ turn.published bus ++ turn.followUps bus =
        batch ++ after.buffer bus := by
  cases ends with
  | busless without =>
      exact ⟨[], rfl, by simp [published, followUps, Activity.publications]⟩
  | failed present refused carried undelivered left =>
      refine ⟨[], clearing_deliveries _ _ _, ?_⟩
      simp only at retains
      rw [left, retains, followUps, clearing_publications]
      exact List.append_nil _
  | flushed present accepted carried undelivered delivered left =>
      refine ⟨_, delivered, ?_⟩
      rw [left]
      rfl

namespace Sequence

theorem split {before after : Broker A} {first second : List (Turn A)}
    (sequence : Sequence depth bus before (first ++ second) after) :
    ∃ middle, Sequence depth bus before first middle ∧
      Sequence depth bus middle second after := by
  induction first generalizing before with
  | nil => exact ⟨before, .done before, sequence⟩
  | cons turn rest ih =>
      cases sequence with
      | turn leads later =>
          obtain ⟨middle, front, back⟩ := ih later
          exact ⟨middle, .turn leads front, back⟩

theorem subscriptions {before after : Broker A} {turns : List (Turn A)}
    (sequence : Sequence depth bus before turns after) :
    after.subscriptions = before.subscriptions := by
  induction sequence with
  | done broker => rfl
  | turn first later ih => exact ih.trans first.subscriptions

theorem addressed {before after : Broker A} {turns : List (Turn A)}
    (sequence : Sequence depth bus before turns after) (batch : List A.Event) :
    after.addressed batch = before.addressed batch := by
  simp only [Broker.addressed, Broker.subscribers, sequence.subscriptions]

theorem history {before after : Broker A} {turns : List (Turn A)}
    (sequence : Sequence depth bus before turns after) :
    after.history = before.history ++ turns.flatMap added := by
  induction sequence with
  | done broker => simp
  | turn first later ih => rw [ih, first.history, List.append_assoc, List.flatMap_cons]

/-- Turns that are held leave what waited and all that their commands published. -/
theorem held {before after : Broker A} {turns : List (Turn A)}
    (sequence : Sequence depth bus before turns after) (held : ∀ turn ∈ turns, turn.Held) :
    after.buffer bus = before.buffer bus ++ turns.flatMap (published bus) := by
  induction sequence with
  | done broker => simp
  | @turn before middle after turn rest first later ih =>
      have one := first.ends.held (held turn (List.mem_cons_self ..))
      have others := ih fun other member => held other (List.mem_cons_of_mem _ member)
      rw [others, one, List.append_assoc, List.flatMap_cons]

/-- A success delivers what waited and all that was published since, also by commands that
failed. -/
theorem next_success {before after : Broker A} {failures later : List (Turn A)}
    {success : Turn A}
    (sequence : Sequence depth bus before (failures ++ success :: later) after)
    (held : ∀ turn ∈ failures, turn.Held) (succeeded : success.result = .ok ()) :
    success.delivered = before.addressed
      (before.buffer bus ++ (failures ++ [success]).flatMap (published bus)) := by
  obtain ⟨middle, failing, rest⟩ := sequence.split
  cases rest with
  | turn leads _ =>
      rw [leads.ends.flushes succeeded, failing.addressed, failing.held held, List.append_assoc,
        List.flatMap_append, List.flatMap_singleton]

/-- **Where nothing is dropped**, what waited and what is published is what is delivered and what
waits in the end, in the same order. -/
theorem balance {before after : Broker A} {turns : List (Turn A)}
    (sequence : Sequence depth bus before turns after)
    (retain : ∀ turn ∈ turns, turn.submission.policy = .retainOnFailure) :
    ∃ batch, Activity.deliveries (turns.flatMap added) = before.addressed batch ∧
      before.buffer bus ++ Activity.publications bus (turns.flatMap added) =
        batch ++ after.buffer bus := by
  induction sequence with
  | done broker => exact ⟨[], rfl, List.append_nil _⟩
  | @turn before middle after turn rest first later ih =>
      obtain ⟨batch, delivered, one⟩ :=
        first.ends.balance (retain turn (List.mem_cons_self ..))
      obtain ⟨batches, deliveries, others⟩ :=
        ih fun other member => retain other (List.mem_cons_of_mem _ member)
      have same : middle.addressed batches = before.addressed batches := by
        simp only [Broker.addressed, Broker.subscribers, first.subscriptions]
      refine ⟨batch ++ batches, ?_, ?_⟩
      · rw [List.flatMap_cons, Activity.deliveries_append, added, Activity.deliveries_append,
          first.ends.undelivered, List.nil_append, deliveries, same, Broker.addressed_append]
        exact congrArg (· ++ _) delivered
      · calc before.buffer bus ++ Activity.publications bus ((turn :: rest).flatMap added)
            = before.buffer bus ++ turn.published bus ++ turn.followUps bus ++
                Activity.publications bus (rest.flatMap added) := by
              rw [List.flatMap_cons, publications_append, added, publications_append]
              simp only [List.append_assoc, published, followUps]
          _ = batch ++ (middle.buffer bus ++ Activity.publications bus (rest.flatMap added)) := by
              rw [one, List.append_assoc]
          _ = batch ++ batches ++ after.buffer bus := by
              rw [others, List.append_assoc]

end Sequence

end Turn

/-- Submissions one after another are all answered, in turns. -/
theorem each_sequence (depth : Nat) (bus : BusId) (submissions : List (Submission A))
    {broker : Broker A} (forwarding : broker.Forwarding)
    (shared : ∀ submission ∈ submissions,
      submission.context.events = none ∨ submission.context.events = some bus) :
    ∃ (turns : List (Turn A)) (after : Broker A),
      Act.each (submissions.map (Submission.submit (depth + 1))) broker =
        (some (turns.map Turn.result), after) ∧
      turns.map Turn.submission = submissions ∧
      Turn.Sequence (depth + 1) bus broker turns after := by
  induction submissions generalizing broker with
  | nil => exact ⟨[], broker, rfl, rfl, .done broker⟩
  | cons submission rest ih =>
      obtain ⟨turn, middle, answered, same, leads⟩ := submission.submit_leads depth bus forwarding
        (shared submission (List.mem_cons_self ..))
      obtain ⟨turns, after, others, submitted, sequence⟩ :=
        ih (forwarding.of_same leads.container leads.subscriptions) fun other member =>
          shared other (List.mem_cons_of_mem _ member)
      refine ⟨turn :: turns, after, ?_, ?_, .turn leads sequence⟩
      · rw [List.map_cons, Act.each_of_some answered, others]
        rfl
      · rw [List.map_cons, same, submitted]

/-- **What waits from one command to the next.**  However many commands share a bus, each of
them is answered and its turn ends as `Turn.Ends` says: after a success the events that waited and
those of the command are delivered, after a failure the policy decides, and without a bus nothing
happens.  Where failures keep their events, the next success delivers all that was published since
the last one; and where nothing is dropped at all, the events that waited at first and those
published since are the ones delivered and the ones that wait, each once and in the same order. -/
theorem delivered_by_next_success (depth : Nat) (bus : BusId) (submissions : List (Submission A))
    {broker : Broker A} (forwarding : broker.Forwarding)
    (shared : ∀ submission ∈ submissions,
      submission.context.events = none ∨ submission.context.events = some bus) :
    ∃ (turns : List (Turn A)) (after : Broker A),
      Act.each (submissions.map (Submission.submit (depth + 1))) broker =
        (some (turns.map Turn.result), after) ∧
      turns.map Turn.submission = submissions ∧
      Turn.Sequence (depth + 1) bus broker turns after ∧
      (∀ front failures success later, turns = front ++ (failures ++ success :: later) →
        (∀ turn ∈ failures, turn.Held) → success.result = .ok () →
        ∃ middle, Turn.Sequence (depth + 1) bus broker front middle ∧
          success.delivered = broker.addressed
            (middle.buffer bus ++ (failures ++ [success]).flatMap (Turn.published bus))) ∧
      ((∀ submission ∈ submissions, submission.policy = .retainOnFailure) →
        ∃ added batch, after.history = broker.history ++ added ∧
          Activity.deliveries added = broker.addressed batch ∧
          broker.buffer bus ++ Activity.publications bus added = batch ++ after.buffer bus) := by
  obtain ⟨turns, after, answered, submitted, sequence⟩ :=
    each_sequence depth bus submissions forwarding shared
  refine ⟨turns, after, answered, submitted, sequence, ?_, ?_⟩
  · rintro front failures success later rfl held succeeded
    obtain ⟨middle, begun, rest⟩ := sequence.split
    refine ⟨middle, begun, ?_⟩
    rw [rest.next_success held succeeded, begun.addressed]
  · intro retain
    have retained : ∀ turn ∈ turns, turn.submission.policy = .retainOnFailure := by
      intro turn member
      rw [← submitted] at retain
      exact retain turn.submission (List.mem_map_of_mem member)
    obtain ⟨batch, deliveries, balance⟩ := sequence.balance retained
    exact ⟨turns.flatMap Turn.added, batch, sequence.history, deliveries, balance⟩

namespace Sample

/-- A notebook where a note that starts something is followed up, and all notes are logged. -/
def chainedNotebook : Broker notebook :=
  blankNotebook
    |>.bind "record" (commandBinding "record" none .record)
    |>.bind "again" ((NoteReaction.republish "main" "next").binding "again")
    |>.bind "log" (NoteReaction.keep.binding "log")
    |>.registerCommand .record "record"
    |>.subscribe "start" "again"
    |>.subscribe "start" "log"
    |>.subscribe "next" "log"

theorem handleRecord_publishing (context : Context) (order : RecordOrder) :
    (handleRecord context order).Only Effect.Publishing := by
  refine ⟨trivial, fun _ => ?_⟩
  split
  · trivial
  · split
    · trivial
    · exact ⟨trivial, fun _ => trivial⟩

theorem chainedNotebook_bound {id : String} {binding : Binding notebook}
    (bound : chainedNotebook.container.get? id = some binding) :
    binding = .command .record handleRecord ∨
      binding = (NoteReaction.republish "main" "next").binding "again" ∨
      binding = NoteReaction.keep.binding "log" := by
  simp only [chainedNotebook, Broker.subscribe, Broker.registerCommand, Broker.bind,
    Table.get?_put] at bound
  split at bound
  · exact Or.inr (Or.inr (Option.some.inj bound).symm)
  · split at bound
    · exact Or.inr (Or.inl (Option.some.inj bound).symm)
    · split at bound
      · exact Or.inl (Option.some.inj bound).symm
      · cases bound

theorem chainedNotebook_forwarding : chainedNotebook.Forwarding where
  commands id kind handle bound context payload := by
    rcases chainedNotebook_bound bound with same | same | same
    · cases same
      exact handleRecord_publishing context payload
    · cases same
    · cases same
  events eventType handler subscribed event _ := by
    have again : chainedNotebook.Takes Effect.Publishing event "again" :=
      ⟨_, rfl, ⟨trivial, fun _ => ⟨trivial, fun _ => ⟨trivial, fun _ => trivial⟩⟩⟩,
        fun _ _ _ => rfl⟩
    have log : chainedNotebook.Takes Effect.Publishing event "log" :=
      ⟨_, rfl, ⟨trivial, fun _ => trivial⟩, fun _ => rfl⟩
    have listed : (eventType, handler) ∈ [("start", "again"), ("start", "log"), ("next", "log")] :=
      subscribed
    simp only [List.mem_cons, List.not_mem_nil, or_false, Prod.mk.injEq] at listed
    rcases listed with ⟨_, rfl⟩ | ⟨_, rfl⟩ | ⟨_, rfl⟩
    · exact again
    · exact log
    · exact log

/-- The recording of one note, which may fail after it. -/
def recording (context : Context) (id : String) (failure : Option AppError) : Submission notebook :=
  ⟨.retainOnFailure, context, .record, ⟨[⟨id, "start"⟩], failure⟩⟩

/-- A recording that fails, one without a bus, and two that succeed. -/
def recordings : List (Submission notebook) :=
  [recording (({} : Context).withEvents Broker.mainBus) "1" (some (.infrastructure "store down")),
    recording {} "2" none,
    recording (({} : Context).withEvents Broker.mainBus) "3" none,
    recording (({} : Context).withEvents Broker.mainBus) "4" none]

/-- The first note is delivered with the third, and their follow-ups with the fourth. -/
theorem delivered_by_next_success_chained :
    chainedNotebook.Forwarding ∧
      (∀ submission ∈ recordings, submission.context.events = none ∨
        submission.context.events = some Broker.mainBus) ∧
      Activity.deliveries
          (Act.each (recordings.map (Submission.submit 1)) chainedNotebook).2.history =
        [("again", ⟨"1", "start"⟩), ("log", ⟨"1", "start"⟩), ("again", ⟨"3", "start"⟩),
          ("log", ⟨"3", "start"⟩), ("log", ⟨"1-next", "next"⟩), ("log", ⟨"3-next", "next"⟩),
          ("again", ⟨"4", "start"⟩), ("log", ⟨"4", "start"⟩)] ∧
      ∃ (turns : List (Turn notebook)) (after : Broker notebook),
        Act.each (recordings.map (Submission.submit 1)) chainedNotebook =
          (some (turns.map Turn.result), after) ∧
        turns.map Turn.submission = recordings ∧
        Turn.Sequence 1 Broker.mainBus chainedNotebook turns after := by
  have shared : ∀ submission ∈ recordings, submission.context.events = none ∨
      submission.context.events = some Broker.mainBus := by decide +kernel
  obtain ⟨turns, after, answered, submitted, sequence, _⟩ :=
    delivered_by_next_success 0 Broker.mainBus recordings chainedNotebook_forwarding shared
  exact ⟨chainedNotebook_forwarding, shared, by decide +kernel, turns, after, answered, submitted,
    sequence⟩

end Sample

end Cqrs
