/-
# Proofs.Batch -- how far one flush comes

A flush goes through its batch event by event.  When the turn of an event begins, its handlers are
those subscribed to its type at that moment, in the order of the subscriptions and with repetitions.
It gives the event to one of them after another, and the first that is not bound, is no handler of
events or fails ends the flush (`Broker.Walk`).

Where handlers of events publish and subscribe, and leave the container and what waits otherwise
alone, a flush always has an answer, and the history tells of it: the handlers that were given an
event are those that took it before the first failure, and the one that failed if it is a handler of
events at all.  What they published waits, in order, for the next flush.

* `Program.run_fed`, `Broker.notify_cases` -- one handler, and one event on its way to it;
* `Broker.deliver_walks`, `Broker.deliverAll_walks` -- one event, and a batch;
* `Broker.Walk.unique` -- a batch goes one way only;
* `delivered_up_to_failure` -- a whole flush.
-/
import Cqrs.Proofs.Retention

namespace Cqrs

set_option autoImplicit false

variable {A : Application} {α : Type}

/-! ## Handlers that publish and subscribe -/

/-- Effects that take nothing out of a buffer and leave bindings alone. -/
def Effect.Feeding : Effect A → Prop
  | .subscribe _ _ => True
  | effect => effect.Publishing

/-- A run that added to the history and, with that, to what waits on the buses. -/
structure Feeds (added : List (Activity A)) (before after : Broker A) : Prop where
  container : after.container = before.container
  history : after.history = before.history ++ added
  waiting : ∀ bus, after.buffer bus = before.buffer bus ++ Activity.publications bus added

/-- A run that feeds, with these deliveries. -/
def Fed (delivered : List (String × A.Event)) (before after : Broker A) : Prop :=
  ∃ added, Feeds added before after ∧ Activity.deliveries added = delivered

theorem Forwarded.fed {delivered : List (String × A.Event)} {before after : Broker A}
    (forwarded : Forwarded delivered before after) : Fed delivered before after := by
  obtain ⟨added, forwards, deliveries⟩ := forwarded
  exact ⟨added, ⟨forwards.container, forwards.history, forwards.waiting⟩, deliveries⟩

namespace Fed

theorem refl (broker : Broker A) : Fed [] broker broker :=
  (forwarded_steady.refl broker).fed

theorem trans {first second : List (String × A.Event)} {a b c : Broker A}
    (one : Fed first a b) (two : Fed second b c) : Fed (first ++ second) a c := by
  obtain ⟨here, one, rfl⟩ := one
  obtain ⟨there, two, rfl⟩ := two
  refine ⟨here ++ there, ⟨two.container.trans one.container, ?_, fun bus => ?_⟩,
    Activity.deliveries_append here there⟩
  · rw [two.history, one.history, List.append_assoc]
  · rw [two.waiting, one.waiting, publications_append, List.append_assoc]

theorem container {delivered : List (String × A.Event)} {before after : Broker A}
    (fed : Fed delivered before after) : after.container = before.container := by
  obtain ⟨added, feeds, _⟩ := fed
  exact feeds.container

theorem feeding {delivered : List (String × A.Event)} {before after : Broker A}
    (fed : Fed delivered before after) (only : before.EventsOnly Effect.Feeding) :
    after.EventsOnly Effect.Feeding :=
  fun id handle bound => only id handle (by rw [← fed.container, bound])

end Fed

theorem Effect.Feeding.cases {effect : Effect A} (feeding : effect.Feeding) :
    effect.Publishing ∨ ∃ eventType handler, effect = .subscribe eventType handler := by
  cases effect with
  | subscribe eventType handler => exact Or.inr ⟨eventType, handler, rfl⟩
  | note | log | inspect | update | publish | unbind | pending | discard | flush =>
      exact Or.inl feeding

theorem Effect.Feeding.fed {effect : Effect A} (feeding : effect.Feeding)
    (flush : BusId → Act A (Except AppError Unit)) (broker : Broker A) :
    ∃ response after, effect.carryOut flush broker = (some response, after) ∧
      Fed [] broker after := by
  rcases feeding.cases with publishing | ⟨eventType, handler, rfl⟩
  · obtain ⟨response, after, carried, forwarded⟩ := effect_forwarded publishing flush broker
    exact ⟨response, after, carried, forwarded.fed⟩
  · refine ⟨(), _, rfl, [], ⟨rfl, (List.append_nil _).symm, fun bus => ?_⟩, rfl⟩
    exact (List.append_nil _).symm

/-- A program that publishes and subscribes has a result. -/
theorem Program.run_fed {program : Program A α} (only : program.Only Effect.Feeding)
    (flush : BusId → Act A (Except AppError Unit)) (broker : Broker A) :
    ∃ result after, program.run flush broker = (some result, after) ∧ Fed [] broker after := by
  induction program generalizing broker with
  | done result => exact ⟨result, broker, rfl, .refl broker⟩
  | perform effect next ih =>
      obtain ⟨response, middle, carried, first⟩ := only.1.fed flush broker
      obtain ⟨result, after, ran, second⟩ := ih response (only.2 response) middle
      exact ⟨result, after, (Act.bind_of_some carried).trans ran, first.trans second⟩

/-! ## The way of a batch -/

namespace Broker

/-- A handler of events with allowed effects is bound. -/
theorem EventsOnly.bind {allowed : Effect A → Prop} {broker : Broker A}
    (only : broker.EventsOnly allowed) (id : String) {handle : A.Event → Reaction A}
    (reacts : ∀ event, (handle event).Only allowed) :
    (broker.bind id (.event handle)).EventsOnly allowed := by
  intro other held bound event
  simp only [Broker.bind, Table.get?_put] at bound
  split at bound
  · cases bound
    exact reacts event
  · exact only other held bound event

/-- The handler takes the event and succeeds. -/
def Handled (depth : Nat) (pair : String × A.Event) (before after : Broker A) : Prop :=
  ∃ handle, before.container.get? pair.1 = some (.event handle) ∧
    (handle pair.2).run (flush depth) (before.record (.notified pair.1 pair.2)) =
      (some (.ok ()), after)

/-- The ways in which giving an event to a handler fails, each with its error. -/
inductive Fails (depth : Nat) : String × A.Event → AppError → Broker A → Broker A → Prop
  /-- Nothing is bound under the id. -/
  | unbound {handler : String} {event : A.Event} {broker : Broker A}
      (free : broker.container.get? handler = none) :
      Fails depth (handler, event) (.unresolved handler "no instance bound") broker broker
  /-- What is bound is no handler of events. -/
  | invalid {handler : String} {event : A.Event} {broker : Broker A} {binding : Binding A}
      (bound : broker.container.get? handler = some binding)
      (other : ∀ handle, binding ≠ .event handle) :
      Fails depth (handler, event) (.invalidHandler .event (A.eventType event)) broker broker
  /-- The handler fails. -/
  | error {handler : String} {event : A.Event} {error : AppError} {before after : Broker A}
      {handle : A.Event → Reaction A}
      (bound : before.container.get? handler = some (.event handle))
      (failed : (handle event).run (flush depth) (before.record (.notified handler event)) =
        (some (.error error), after)) :
      Fails depth (handler, event) error before after

/-- One handler after another takes its event and succeeds. -/
inductive Served (depth : Nat) : List (String × A.Event) → Broker A → Broker A → Prop
  | done (broker : Broker A) : Served depth [] broker broker
  | next {pair : String × A.Event} {pairs : List (String × A.Event)}
      {before middle after : Broker A}
      (first : Handled depth pair before middle) (rest : Served depth pairs middle after) :
      Served depth (pair :: pairs) before after

/-- An event with the handlers subscribed to its type, in the order of the subscriptions. -/
def turn (broker : Broker A) (event : A.Event) : List (String × A.Event) :=
  (broker.subscribers (A.eventType event)).map fun handler => (handler, event)

end Broker

/-- Where a batch comes to its end. -/
inductive Halt (A : Application) where
  /-- Every event was given to all its handlers. -/
  | complete
  /-- Giving an event to a handler failed. -/
  | failed (pair : String × A.Event) (error : AppError)

namespace Halt

def result : Halt A → Except AppError Unit
  | .complete => .ok ()
  | .failed _ error => .error error

/-- What failed, if it is a handler of events: then it was given the event. -/
def invoked (broker : Broker A) : Halt A → List (String × A.Event)
  | .complete => []
  | .failed pair _ =>
      match broker.container.get? pair.1 with
      | some (.event _) => [pair]
      | _ => []

theorem invoked_fed {delivered : List (String × A.Event)} {before after : Broker A}
    (fed : Fed delivered before after) (halt : Halt A) :
    halt.invoked after = halt.invoked before := by
  cases halt with
  | complete => rfl
  | failed pair error => simp only [invoked, fed.container]

end Halt

namespace Broker

/-- The way of a batch through the handlers of its events, with those that took theirs before the
first failure.  The handlers of an event are those that are there when its turn begins. -/
inductive Walk (depth : Nat) :
    List A.Event → Broker A → List (String × A.Event) → Halt A → Broker A → Prop
  | complete (broker : Broker A) : Walk depth [] broker [] .complete broker
  | turn {event : A.Event} {events : List A.Event} {pairs : List (String × A.Event)} {halt : Halt A}
      {before middle after : Broker A} (served : Served depth (before.turn event) before middle)
      (rest : Walk depth events middle pairs halt after) :
      Walk depth (event :: events) before (before.turn event ++ pairs) halt after
  | failed {event : A.Event} {events : List A.Event} {front back : List (String × A.Event)}
      {pair : String × A.Event} {error : AppError} {before middle after : Broker A}
      (split : before.turn event = front ++ pair :: back)
      (served : Served depth front before middle) (fails : Fails depth pair error middle after) :
      Walk depth (event :: events) before front (.failed pair error) after

variable {depth : Nat}

/-! ### One pair -/

theorem Handled.notify {pair : String × A.Event} {before after : Broker A}
    (handled : Handled depth pair before after) :
    Broker.notify (flush depth) pair.2 pair.1 before = (some (.ok ()), after) := by
  obtain ⟨handle, bound, ran⟩ := handled
  simp only [Broker.notify, resolve, bound, Binding.asEvent?]
  exact ran

theorem Fails.notify {pair : String × A.Event} {error : AppError} {before after : Broker A}
    (fails : Fails depth pair error before after) :
    Broker.notify (flush depth) pair.2 pair.1 before = (some (.error error), after) := by
  cases fails with
  | unbound free => simp only [Broker.notify, resolve, free]
  | @invalid handler event broker binding bound other =>
      have none : binding.asEvent? = Option.none := by
        cases binding with
        | event handle => exact absurd rfl (other handle)
        | command | query | text | number | object => rfl
      simp only [Broker.notify, resolve, bound, none]
  | error bound failed =>
      simp only [Broker.notify, resolve, bound, Binding.asEvent?]
      exact failed

/-- An event on its way to a handler that publishes and subscribes at most. -/
theorem notify_cases (depth : Nat) {before : Broker A} (only : before.EventsOnly Effect.Feeding)
    (pair : String × A.Event) :
    (∃ after, Handled depth pair before after ∧ Fed [pair] before after) ∨
      ∃ error after, Fails depth pair error before after ∧
        Fed ((Halt.failed pair error).invoked before) before after := by
  obtain ⟨handler, event⟩ := pair
  cases bound : before.container.get? handler with
  | none =>
      refine Or.inr ⟨_, before, .unbound bound, ?_⟩
      simpa only [Halt.invoked, bound] using Fed.refl before
  | some binding =>
      cases binding with
      | event handle =>
          have given : Fed [(handler, event)] before (before.record (.notified handler event)) :=
            (forwarded_steady.notified handler event before).fed
          obtain ⟨result, after, ran, fed⟩ := Program.run_fed (only handler handle bound event)
            (flush depth) (before.record (.notified handler event))
          have both : Fed [(handler, event)] before after := given.trans fed
          cases result with
          | ok => exact Or.inl ⟨after, ⟨handle, bound, ran⟩, both⟩
          | error error =>
              refine Or.inr ⟨error, after, .error bound ran, ?_⟩
              simpa only [Halt.invoked, bound] using both
      | command | query | text | number | object =>
          refine Or.inr ⟨_, before, .invalid bound (by intro handle same; cases same), ?_⟩
          simpa only [Halt.invoked, bound] using Fed.refl before

/-! ### One event -/

/-- An event given to some handlers: all of them take it, or it comes as far as the first that
fails. -/
theorem deliver_walks (depth : Nat) (event : A.Event) (handlers : List String) {before : Broker A}
    (only : before.EventsOnly Effect.Feeding) :
    let pairs := handlers.map fun handler => (handler, event)
    (∃ after, deliver (flush depth) event handlers before = (some (.ok ()), after) ∧
      Served depth pairs before after ∧ Fed pairs before after) ∨
    ∃ front pair back error middle after, pairs = front ++ pair :: back ∧
      deliver (flush depth) event handlers before = (some (.error error), after) ∧
      Served depth front before middle ∧ Fails depth pair error middle after ∧
      Fed (front ++ (Halt.failed pair error).invoked before) before after := by
  induction handlers generalizing before with
  | nil => exact Or.inl ⟨before, rfl, .done before, .refl before⟩
  | cons handler rest ih =>
      rcases notify_cases depth only (handler, event) with
        ⟨middle, handled, fed⟩ | ⟨error, after, fails, fed⟩
      · have onward : deliver (flush depth) event (handler :: rest) before =
            deliver (flush depth) event rest middle := Act.bind_of_some handled.notify
        rcases ih (fed.feeding only) with ⟨after, delivered, served, later⟩ |
          ⟨front, pair, back, error, last, after, split, delivered, served, fails, later⟩
        · exact Or.inl ⟨after, onward.trans delivered, .next handled served, fed.trans later⟩
        · refine Or.inr ⟨(handler, event) :: front, pair, back, error, last, after,
            congrArg (List.cons (handler, event)) split, onward.trans delivered,
            .next handled served, fails, ?_⟩
          rw [Halt.invoked_fed fed] at later
          exact fed.trans later
      · exact Or.inr ⟨[], (handler, event), _, error, before, after, rfl,
          Act.bind_of_some fails.notify, .done before, fails, fed⟩

/-! ### A batch -/

theorem deliverAll_walks (depth : Nat) (events : List A.Event) {before : Broker A}
    (only : before.EventsOnly Effect.Feeding) :
    ∃ served halt after, Walk depth events before served halt after ∧
      deliverAll (flush depth) events before = (some halt.result, after) ∧
      Fed (served ++ halt.invoked before) before after := by
  induction events generalizing before with
  | nil => exact ⟨[], .complete, before, .complete before, rfl, .refl before⟩
  | cons event rest ih =>
      rcases deliver_walks depth event (before.subscribers (A.eventType event)) only with
        ⟨middle, delivered, served, fed⟩ |
        ⟨front, pair, back, error, middle, after, split, delivered, served, fails, fed⟩
      · obtain ⟨pairs, halt, after, walk, ended, later⟩ := ih (fed.feeding only)
        refine ⟨_, halt, after, .turn served walk, (Act.bind_of_some delivered).trans ended, ?_⟩
        rw [Halt.invoked_fed fed] at later
        rw [List.append_assoc]
        exact fed.trans later
      · exact ⟨front, .failed pair error, after, .failed split served fails,
          Act.bind_of_some delivered, fed⟩

/-- Only events of the batch are given to handlers. -/
theorem Walk.within {events : List A.Event} {before after : Broker A}
    {served : List (String × A.Event)} {halt : Halt A}
    (walk : Walk depth events before served halt after) (broker : Broker A) :
    ∀ pair ∈ served ++ halt.invoked broker, pair.2 ∈ events := by
  induction walk with
  | complete => simp [Halt.invoked]
  | @turn event events pairs halt before middle after served rest ih =>
      intro pair member
      rw [List.append_assoc] at member
      rcases List.mem_append.mp member with here | later
      · obtain ⟨handler, _, rfl⟩ := List.mem_map.mp here
        exact List.mem_cons_self ..
      · exact List.mem_cons_of_mem _ (ih pair later)
  | @failed event events front back pair error before middle after split served fails =>
      have own : ∀ other ∈ front ++ [pair], other.2 = event := by
        intro other member
        have listed : other ∈ before.turn event := by
          rw [split, List.append_cons]
          exact List.mem_append_left _ member
        obtain ⟨handler, _, rfl⟩ := List.mem_map.mp listed
        rfl
      intro other member
      have present : other ∈ front ++ [pair] := by
        rcases List.mem_append.mp member with here | there
        · exact List.mem_append_left _ here
        · refine List.mem_append_right _ ?_
          simp only [Halt.invoked] at there
          split at there
          · exact there
          · cases there
      rw [own other present]
      exact List.mem_cons_self ..

/-! ### One way only -/

theorem Handled.unique {pair : String × A.Event} {before one two : Broker A}
    (first : Handled depth pair before one) (second : Handled depth pair before two) :
    one = two :=
  (Prod.mk.inj (first.notify.symm.trans second.notify)).2

theorem Handled.not_fails {pair : String × A.Event} {error : AppError} {before one two : Broker A}
    (handled : Handled depth pair before one) : ¬Fails depth pair error before two := by
  intro fails
  cases handled.notify.symm.trans fails.notify

theorem Served.unique {pairs : List (String × A.Event)} {before one two : Broker A}
    (first : Served depth pairs before one) (second : Served depth pairs before two) :
    one = two := by
  induction first with
  | done broker => cases second with | done => rfl
  | next handled rest ih =>
      cases second with
      | next other later =>
          obtain rfl := handled.unique other
          exact ih later

/-- Where some handlers take their events, none of them fails. -/
theorem Served.not_fails {front back : List (String × A.Event)} {pair : String × A.Event}
    {error : AppError} {before middle one two : Broker A}
    (all : Served depth (front ++ pair :: back) before one)
    (served : Served depth front before middle) :
    ¬Fails depth pair error middle two := by
  induction served with
  | done broker => cases all with | next handled => exact handled.not_fails
  | next handled rest ih =>
      cases all with
      | next other later =>
          obtain rfl := handled.unique other
          exact ih later

/-- The first failure is in one place and with one error. -/
theorem Served.first_failure {front other back rest : List (String × A.Event)}
    {pair failing : String × A.Event} {error failure : AppError}
    {before here there one two : Broker A}
    (same : front ++ pair :: back = other ++ failing :: rest)
    (served : Served depth front before here) (fails : Fails depth pair error here one)
    (others : Served depth other before there) (failed : Fails depth failing failure there two) :
    front = other ∧ pair = failing ∧ error = failure ∧ one = two := by
  induction served generalizing other with
  | done broker =>
      cases others with
      | done =>
          obtain ⟨rfl, -⟩ := List.cons.inj same
          obtain ⟨ended, rfl⟩ := Prod.mk.inj (fails.notify.symm.trans failed.notify)
          cases ended
          exact ⟨rfl, rfl, rfl, rfl⟩
      | next handled later =>
          obtain ⟨rfl, -⟩ := List.cons.inj same
          exact absurd fails handled.not_fails
  | next handled later ih =>
      cases others with
      | done =>
          obtain ⟨rfl, -⟩ := List.cons.inj same
          exact absurd failed handled.not_fails
      | next also further =>
          obtain ⟨rfl, tail⟩ := List.cons.inj same
          obtain rfl := handled.unique also
          obtain ⟨rfl, rest⟩ := ih tail fails further
          exact ⟨rfl, rest⟩

/-- A batch goes one way only. -/
theorem Walk.unique {events : List A.Event} {before one two : Broker A}
    {served others : List (String × A.Event)} {halt stop : Halt A}
    (first : Walk depth events before served halt one)
    (second : Walk depth events before others stop two) :
    served = others ∧ halt = stop ∧ one = two := by
  induction first generalizing others with
  | complete broker => cases second with | complete => exact ⟨rfl, rfl, rfl⟩
  | turn here rest ih =>
      cases second with
      | turn there later =>
          obtain rfl := here.unique there
          obtain ⟨rfl, ended⟩ := ih later
          exact ⟨rfl, ended⟩
      | failed split there fails =>
          rw [split] at here
          exact absurd fails (here.not_fails there)
  | failed split here fails =>
      cases second with
      | turn there later =>
          rw [split] at there
          exact absurd fails (there.not_fails here)
      | failed other there failed =>
          obtain ⟨rfl, rfl, rfl, rfl⟩ :=
            here.first_failure (split.symm.trans other) fails there failed
          exact ⟨rfl, rfl, rfl⟩

/-- How one flush went: how far its batch came, with which result, and what the history and the
buffers tell of it. -/
structure Delivered (depth : Nat) (bus : BusId) (before : Broker A)
    (served : List (String × A.Event)) (halt : Halt A) (added : List (Activity A))
    (after : Broker A) : Prop where
  walk : Walk depth (before.buffer bus) (before.take bus).2 served halt after
  unique : ∀ others stop final,
    Walk depth (before.buffer bus) (before.take bus).2 others stop final →
    others = served ∧ stop = halt ∧ final = after
  ran : flush (depth + 1) bus before = (some halt.result, after)
  history : after.history = before.history ++ .taken bus (before.buffer bus) :: added
  deliveries : Activity.deliveries added = served ++ halt.invoked before
  within : ∀ pair ∈ Activity.deliveries added, pair.2 ∈ before.buffer bus
  waiting : after.buffer bus = Activity.publications bus added
  others : ∀ other, other ≠ bus →
    after.buffer other = before.buffer other ++ Activity.publications other added
  container : after.container = before.container

end Broker

/-- **One flush comes as far as the first failure.**  Handlers of events may publish and subscribe,
and leave the container and what waits otherwise alone.  Then a flush has a result, and its batch
goes one way: the handlers of an event are those that are there when its turn begins, they take it
one after another, and the first failure ends the flush with its error.  Given an event were those
that took theirs before that, and the one that failed if it is a handler of events; so events
published meanwhile, of whatever type, are given to nobody.  They are all that waits afterwards. -/
theorem delivered_up_to_failure (depth : Nat) (bus : BusId) (before : Broker A)
    (feeding : before.EventsOnly Effect.Feeding) :
    ∃ served halt added after, before.Delivered depth bus served halt added after := by
  have begun : (before.take bus).2.EventsOnly Effect.Feeding := feeding
  obtain ⟨served, halt, after, walk, ran, added, feeds, deliveries⟩ :=
    Broker.deliverAll_walks depth (before.buffer bus) begun
  have took : ∀ other, (before.take bus).2.buffer other =
      if bus = other then [] else before.buffer other := fun other => before.buffer_put bus other []
  refine ⟨served, halt, added, after, walk, ?_, ran, ?_, deliveries, ?_, ?_, ?_, feeds.container⟩
  · intro others stop final other
    exact other.unique walk
  · rw [feeds.history]
    exact List.append_assoc _ [_] _
  · rw [deliveries]
    exact walk.within before
  · rw [feeds.waiting, took, if_pos rfl, List.nil_append]
  · intro other apart
    rw [feeds.waiting, took, if_neg (Ne.symm apart)]

namespace Sample

theorem feeding_bind {broker : Broker notebook} (only : broker.EventsOnly Effect.Feeding)
    (id : String) (reaction : NoteReaction)
    (feeds : ∀ note, (reaction.program id note).Only Effect.Feeding) :
    (broker.bind id (reaction.binding id)).EventsOnly Effect.Feeding :=
  only.bind id fun note => ⟨trivial, fun _ => feeds note⟩

/-- A notebook where notes that start something start more of it and add a handler for that, and
the third one breaks off. -/
def haltingNotebook : Broker notebook :=
  blankNotebook
    |>.bind "again" ((NoteReaction.republish "main" "start").binding "again")
    |>.bind "more" ((NoteReaction.subscribe "start" "log").binding "more")
    |>.bind "boom" ((NoteReaction.fail (.infrastructure "store down") (some "3")).binding "boom")
    |>.bind "log" (NoteReaction.keep.binding "log")
    |>.subscribe "start" "again"
    |>.subscribe "start" "more"
    |>.subscribe "start" "boom"
    |>.publish Broker.mainBus [⟨"1", "start"⟩, ⟨"0", "other"⟩, ⟨"2", "start"⟩, ⟨"3", "start"⟩]

theorem haltingNotebook_feeding : haltingNotebook.EventsOnly Effect.Feeding := by
  have blank : blankNotebook.EventsOnly Effect.Feeding := nofun
  have again := feeding_bind blank "again" (.republish "main" "start") fun _ =>
    ⟨trivial, fun _ => ⟨trivial, fun _ => trivial⟩⟩
  have more := feeding_bind again "more" (.subscribe "start" "log") fun _ =>
    ⟨trivial, fun _ => trivial⟩
  have boom := feeding_bind more "boom" (.fail (.infrastructure "store down") (some "3"))
    fun _ => trivial
  exact feeding_bind boom "log" .keep fun _ => trivial

/-- The handler that the first note added is given the second one, and the third one breaks off
before it comes to that; the notes that were started wait. -/
theorem delivered_up_to_failure_halting :
    haltingNotebook.EventsOnly Effect.Feeding ∧
      Activity.deliveries (Broker.flush 1 Broker.mainBus haltingNotebook).2.history =
        [("again", ⟨"1", "start"⟩), ("more", ⟨"1", "start"⟩), ("boom", ⟨"1", "start"⟩),
          ("again", ⟨"2", "start"⟩), ("more", ⟨"2", "start"⟩), ("boom", ⟨"2", "start"⟩),
          ("log", ⟨"2", "start"⟩), ("again", ⟨"3", "start"⟩), ("more", ⟨"3", "start"⟩),
          ("boom", ⟨"3", "start"⟩)] ∧
      (Broker.flush 1 Broker.mainBus haltingNotebook).2.buffer Broker.mainBus =
        [⟨"1-next", "start"⟩, ⟨"2-next", "start"⟩, ⟨"3-next", "start"⟩] ∧
      ∃ served halt added after,
        haltingNotebook.Delivered 0 Broker.mainBus served halt added after :=
  ⟨haltingNotebook_feeding, by decide +kernel, by decide +kernel,
    delivered_up_to_failure 0 Broker.mainBus haltingNotebook haltingNotebook_feeding⟩

/-- A note that starts something. -/
def firstNote : Note := ⟨"1", "start"⟩

/-- A notebook with one note, which is logged and then breaks off. -/
def brokenNotebook : Broker notebook :=
  blankNotebook
    |>.bind "log" (NoteReaction.keep.binding "log")
    |>.bind "boom" ((NoteReaction.fail (.infrastructure "store down") none).binding "boom")
    |>.subscribe "start" "log"
    |>.subscribe "start" "boom"
    |>.publish Broker.mainBus [firstNote]

/-- The broker once a handler was given the note and left its line. -/
def givenTo (handler : String) (broker : Broker notebook) : Broker notebook :=
  (broker.record (.notified handler firstNote)).record (.noted (handler ++ ":1"))

/-- The handlers that were given an event are more than those before the first failure: one that
fails was given its event too. -/
theorem failing_handler_invoked :
    ¬∀ (depth : Nat) (bus : BusId) (before : Broker notebook), before.EventsOnly Effect.Feeding →
      ∀ served halt added after,
        Broker.Walk depth (before.buffer bus) (before.take bus).2 served halt after →
        after.history = before.history ++ .taken bus (before.buffer bus) :: added →
        Activity.deliveries added = served := by
  intro claimed
  have feeding : brokenNotebook.EventsOnly Effect.Feeding := by
    have blank : blankNotebook.EventsOnly Effect.Feeding := nofun
    have log := feeding_bind blank "log" .keep fun _ => trivial
    exact feeding_bind log "boom" (.fail (.infrastructure "store down") none) fun _ => trivial
  have logged : Broker.Handled 0 ("log", firstNote) (brokenNotebook.take Broker.mainBus).2
      (givenTo "log" (brokenNotebook.take Broker.mainBus).2) :=
    ⟨fun note => .perform (.note ("log:" ++ note.id)) fun _ => .done (.ok ()), rfl, rfl⟩
  have bound : (givenTo "log" (brokenNotebook.take Broker.mainBus).2).container.get? "boom" =
      some ((NoteReaction.fail (.infrastructure "store down") none).binding "boom") := rfl
  have failed : Broker.Fails 0 ("boom", firstNote) (.infrastructure "store down")
      (givenTo "log" (brokenNotebook.take Broker.mainBus).2)
      (givenTo "boom" (givenTo "log" (brokenNotebook.take Broker.mainBus).2)) := .error bound rfl
  have walk : Broker.Walk 0 (brokenNotebook.buffer Broker.mainBus)
      (brokenNotebook.take Broker.mainBus).2 [("log", firstNote)]
      (.failed ("boom", firstNote) (.infrastructure "store down"))
      (givenTo "boom" (givenTo "log" (brokenNotebook.take Broker.mainBus).2)) :=
    .failed rfl (.next logged (.done _)) failed
  have served := claimed 0 Broker.mainBus brokenNotebook feeding _ _
    [.notified "log" firstNote, .noted "log:1", .notified "boom" firstNote,
      .noted "boom:1"] _ walk rfl
  exact absurd served (by decide)

end Sample

end Cqrs
