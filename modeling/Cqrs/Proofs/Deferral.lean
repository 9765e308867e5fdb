/-
# Proofs.Deferral -- nothing that is published is lost, doubled or moved

While a program runs, the broker changes step by step, also deep within the flushes that
handlers start in the middle of other flushes.  The trail of a run is the row of all brokers
that it passes through (`Program.trail`); it leads from the first broker to the last one, and no
step adds more than one activity to the history (`Program.run_path`).

At every broker on the trail the events published on a bus so far are, in the same order, those
of the batches taken from it and those that wait there (`Balanced`).  So no event is in two
batches, and a flush that fails gives up the rest of its own batch and nothing else
(`Broker.flush_aborted`).

* `Broker.flush_path`, `Program.run_path` -- the trail leads through single steps;
* `Path.covers` -- and it leaves out no moment of the history;
* `Balanced.along` -- single steps keep the balance;
* `published_once` -- what follows at every broker on the trail of a run.
-/
import Cqrs.Proofs.Growth
import Cqrs.Sample.Notebook
import Mathlib.Data.List.Nodup

namespace Cqrs

set_option autoImplicit false

variable {A : Application} {α β : Type}

/-! ## The trail of a run -/

/-- The brokers that a run passes through after the one that it begins with. -/
abbrev Trail (A : Application) := Broker A → List (Broker A)

/-- The trail of a run and of the one that follows, which depends on its answer. -/
def Act.trail (act : Act A α) (first : Trail A) (next : α → Trail A) : Trail A := fun broker =>
  first broker ++
    match act broker with
    | (some result, middle) => next result middle
    | (none, _) => []

section Trails

variable (flush : BusId → Act A (Except AppError Unit)) (flushTrail : BusId → Trail A)

/-- The trail of one effect, where those of flushes are given. -/
def Effect.trail : Effect A → Trail A
  | .flush bus => flushTrail bus
  | effect => fun broker => [(effect.carryOut flush broker).2]

def Program.trail : Program A α → Trail A
  | .done _ => fun _ => []
  | .perform effect next =>
      (effect.carryOut flush).trail (effect.trail flush flushTrail) fun response =>
        (next response).trail

def Broker.notifyTrail (event : A.Event) (handler : String) : Trail A := fun broker =>
  match broker.resolve handler with
  | .error _ => []
  | .ok binding =>
      match binding.asEvent? with
      | some handle =>
          broker.record (.notified handler event) ::
            (handle event).trail flush flushTrail (broker.record (.notified handler event))
      | none => []

def Broker.deliverTrail (event : A.Event) : List String → Trail A
  | [] => fun _ => []
  | handler :: rest =>
      (Broker.notify flush event handler).trail (Broker.notifyTrail flush flushTrail event handler)
        fun
        | .ok () => deliverTrail event rest
        | .error _ => fun _ => []

def Broker.deliverAllTrail : List A.Event → Trail A
  | [] => fun _ => []
  | event :: rest => fun broker =>
      (Broker.deliver flush event (broker.subscribers (A.eventType event))).trail
        (Broker.deliverTrail flush flushTrail event (broker.subscribers (A.eventType event)))
        (fun
          | .ok () => deliverAllTrail rest
          | .error _ => fun _ => []) broker

end Trails

/-- The trail of a flush, with all flushes within it. -/
def Broker.flushTrail : Nat → BusId → Trail A
  | 0, _ => fun _ => []
  | depth + 1, bus => fun broker =>
      (broker.take bus).2 ::
        Broker.deliverAllTrail (Broker.flush depth) (flushTrail depth) (broker.buffer bus)
          (broker.take bus).2

/-! ## Single steps -/

/-- One step: at most one activity was added to the history, and the buffers went with it. -/
def Step (before after : Broker A) : Prop :=
  ∃ added batch, added.length ≤ 1 ∧ Broker.Adds added batch before after

/-- The brokers in a row lead from the one to the other, each one step from the last. -/
inductive Path : Broker A → List (Broker A) → Broker A → Prop
  | done (broker : Broker A) : Path broker [] broker
  | step {start next final : Broker A} {rest : List (Broker A)} (first : Step start next)
      (later : Path next rest final) : Path start (next :: rest) final

theorem Path.append {a b c : Broker A} {first second : List (Broker A)} (one : Path a first b)
    (two : Path b second c) : Path a (first ++ second) c := by
  induction one with
  | done broker => exact two
  | step first later ih => exact .step first (ih two)

theorem Path.bind {act : Act A α} {next : α → Act A β} {first : Trail A} {later : α → Trail A}
    {broker : Broker A} (one : Path broker (first broker) (act broker).2)
    (two : ∀ result broker, Path broker (later result broker) (next result broker).2) :
    Path broker (act.trail first later broker) (act.bind next broker).2 := by
  unfold Act.trail
  rcases answered : act broker with ⟨_ | result, middle⟩
  · rw [answered] at one
    rw [Act.bind_of_none answered]
    exact one.append (.done middle)
  · rw [answered] at one
    rw [Act.bind_of_some answered]
    exact one.append (two result middle)

theorem Path.history_prefix {start final : Broker A} {points : List (Broker A)}
    (path : Path start points final) : start.history <+: final.history := by
  induction path with
  | done broker => exact List.prefix_rfl
  | step first later ih =>
      obtain ⟨added, _, _, adds⟩ := first
      exact List.IsPrefix.trans ⟨added, adds.history.symm⟩ ih

/-- A path passes through every moment between its ends. -/
theorem Path.covers {start final : Broker A} {points : List (Broker A)}
    (path : Path start points final) {moment : List (Activity A)}
    (begun : start.history <+: moment) (ended : moment <+: final.history) :
    ∃ point ∈ start :: points, point.history = moment := by
  induction path with
  | done broker =>
      exact ⟨broker, List.mem_cons_self .., begun.eq_of_length_le ended.length_le⟩
  | @step start next final rest first later ih =>
      obtain ⟨added, _, single, adds⟩ := first
      by_cases same : moment.length ≤ start.history.length
      · exact ⟨start, List.mem_cons_self .., begun.eq_of_length_le same⟩
      · -- the step added one activity at most, so the moment is not before its end
        have short : next.history.length ≤ moment.length := by
          rw [adds.history, List.length_append]
          omega
        obtain ⟨point, member, found⟩ :=
          ih (List.prefix_of_prefix_length_le later.history_prefix ended short) ended
        exact ⟨point, List.mem_cons_of_mem _ member, found⟩

theorem Broker.Adds.step {activity : Activity A} {batch : List A.Event}
    {before after : Broker A} (adds : Broker.Adds [activity] batch before after) :
    Step before after :=
  ⟨[activity], batch, Nat.le_refl 1, adds⟩

theorem effect_step (effect : Effect A) (flush : BusId → Act A (Except AppError Unit))
    (broker : Broker A) (plain : ∀ bus, effect ≠ .flush bus) :
    Step broker (effect.carryOut flush broker).2 := by
  rcases Broker.effect_adds effect flush broker plain with nothing | ⟨activity, _, one⟩
  · exact ⟨[], [], Nat.zero_le 1, nothing⟩
  · exact one.step

section Paths

variable {flush : BusId → Act A (Except AppError Unit)} {flushTrail : BusId → Trail A}
  (flushes : ∀ bus broker, Path broker (flushTrail bus broker) (flush bus broker).2)

include flushes

theorem Effect.carryOut_path (effect : Effect A) (broker : Broker A) :
    Path broker (effect.trail flush flushTrail broker) (effect.carryOut flush broker).2 := by
  cases effect with
  | flush bus => exact flushes bus broker
  | note | log | inspect | update | publish | subscribe | unbind | pending | discard =>
      exact .step (effect_step _ flush broker nofun) (.done _)

/-- The trail of a program leads from its first broker to its last, where those of flushes
do. -/
theorem Program.run_path (program : Program A α) (broker : Broker A) :
    Path broker (program.trail flush flushTrail broker) (program.run flush broker).2 := by
  induction program generalizing broker with
  | done result => exact .done broker
  | perform effect next ih =>
      exact .bind (effect.carryOut_path flushes broker) fun response broker => ih response broker

namespace Broker

theorem notify_path (event : A.Event) (handler : String) (broker : Broker A) :
    Path broker (notifyTrail flush flushTrail event handler broker)
      (notify flush event handler broker).2 := by
  unfold notifyTrail notify
  cases broker.resolve handler with
  | error => exact .done broker
  | ok binding =>
      cases found : binding.asEvent? with
      | none =>
          simp only [found]
          exact .done broker
      | some handle =>
          simp only [found]
          have noted : Adds [.notified handler event] [event] broker
              (broker.record (.notified handler event)) :=
            .record broker _ trivial ⟨List.mem_singleton_self event, trivial⟩
          exact .step noted.step ((handle event).run_path flushes _)

theorem deliver_path (event : A.Event) (handlers : List String) (broker : Broker A) :
    Path broker (deliverTrail flush flushTrail event handlers broker)
      (deliver flush event handlers broker).2 := by
  induction handlers generalizing broker with
  | nil => exact .done broker
  | cons handler rest ih =>
      refine .bind (notify_path flushes event handler broker) fun result broker => ?_
      cases result with
      | ok => exact ih broker
      | error => exact .done broker

theorem deliverAll_path (events : List A.Event) (broker : Broker A) :
    Path broker (deliverAllTrail flush flushTrail events broker)
      (deliverAll flush events broker).2 := by
  induction events generalizing broker with
  | nil => exact .done broker
  | cons event rest ih =>
      refine .bind (deliver_path flushes event _ broker) fun result broker => ?_
      cases result with
      | ok => exact ih broker
      | error => exact .done broker

end Broker

end Paths

/-- The trail of a flush leads through all flushes within it. -/
theorem Broker.flush_path (depth : Nat) (bus : BusId) (broker : Broker A) :
    Path broker (flushTrail depth bus broker) (flush depth bus broker).2 := by
  induction depth generalizing bus broker with
  | zero => exact .done broker
  | succ depth ih =>
      have took : Adds [.taken bus (broker.buffer bus)] [] broker (broker.take bus).2 :=
        take_adds broker bus
      exact .step took.step (deliverAll_path ih _ _)

/-! ## The balance -/

namespace Activity

/-- The batch that was taken from a bus, if that is what happened. -/
def taken? (bus : BusId) : Activity A → Option (List A.Event)
  | .taken other events => if other = bus then some events else none
  | _ => none

/-- The batches that were taken from a bus, in order. -/
def takenFrom (bus : BusId) (history : List (Activity A)) : List (List A.Event) :=
  history.filterMap (taken? bus)

theorem flatten_takenFrom (bus : BusId) (history : List (Activity A)) :
    (takenFrom bus history).flatten = batches bus history := by
  induction history with
  | nil => rfl
  | cons activity rest ih =>
      cases activity with
      | taken other events =>
          by_cases same : other = bus
          · simpa [takenFrom, taken?, batches, batch, same] using ih
          · simpa [takenFrom, taken?, batches, batch, same] using ih
      | noted | logged | published | notified | handled | completed | asked | session => exact ih

end Activity

/-- The events published on a bus so far are those of the batches taken from it, one batch
after another, and after them those that wait there. -/
def Balanced (bus : BusId) (broker : Broker A) : Prop :=
  Activity.publications bus broker.history =
    (Activity.takenFrom bus broker.history).flatten ++ broker.buffer bus

/-- A bus is balanced before anything happened. -/
theorem Balanced.of_fresh {bus : BusId} {broker : Broker A} (quiet : broker.history = [])
    (empty : broker.buffer bus = []) : Balanced bus broker := by
  unfold Balanced
  rw [quiet, empty]
  rfl

theorem Balanced.adds {bus : BusId} {before after : Broker A} {added : List (Activity A)}
    {batch : List A.Event} (balanced : Balanced bus before)
    (adds : Broker.Adds added batch before after) : Balanced bus after := by
  have more := adds.publications_eq bus
  unfold Balanced at balanced ⊢
  rw [Activity.flatten_takenFrom] at balanced ⊢
  calc Activity.publications bus after.history
      = Activity.publications bus before.history ++ Activity.publications bus added := by
        rw [adds.history, Activity.publications, List.flatMap_append]
        rfl
    _ = Activity.batches bus before.history ++
          (before.buffer bus ++ Activity.publications bus added) := by
        rw [balanced, List.append_assoc]
    _ = Activity.batches bus before.history ++
          (Activity.batches bus added ++ after.buffer bus) := by rw [more]
    _ = Activity.batches bus after.history ++ after.buffer bus := by
        rw [adds.history, ← List.append_assoc, Activity.batches, Activity.batches,
          Activity.batches, List.flatMap_append]

/-- A balanced bus is balanced at every broker along a path. -/
theorem Balanced.along {bus : BusId} {start final : Broker A} {points : List (Broker A)}
    (balanced : Balanced bus start) (path : Path start points final) :
    ∀ point ∈ start :: points, Balanced bus point := by
  induction path with
  | done broker =>
      intro point member
      rw [List.mem_singleton.mp member]
      exact balanced
  | step first later ih =>
      obtain ⟨_, _, _, adds⟩ := first
      intro point member
      rcases List.mem_cons.mp member with rfl | further
      · exact balanced
      · exact ih (balanced.adds adds) point further

/-! ## How flushes end -/

/-- A run that goes on after a success only, and has an answer: it failed with it, or it
succeeded and the answer is that of what followed. -/
theorem Act.bind_answered {act next : Act A (Except AppError Unit)} {before after : Broker A}
    {outcome : Except AppError Unit}
    (answered : act.bind (fun
      | .ok () => next
      | .error error => .answer (.error error)) before = (some outcome, after)) :
    (∃ error, outcome = .error error ∧ act before = (some (.error error), after)) ∨
      ∃ middle, act before = (some (.ok ()), middle) ∧ next middle = (some outcome, after) := by
  rcases first : act before with ⟨_ | (error | _), middle⟩
  · rw [Act.bind_of_none first] at answered
    cases answered
  · rw [Act.bind_of_some first] at answered
    cases answered
    exact Or.inl ⟨error, rfl, rfl⟩
  · rw [Act.bind_of_some first] at answered
    exact Or.inr ⟨middle, rfl, answered⟩

namespace Broker

/-- In a batch that is delivered to the end, every event is given to all its subscribers. -/
theorem deliverAll_ok {flush : BusId → Act A (Except AppError Unit)}
    {delivered : List A.Event} {event : A.Event} {rest : List A.Event} {before after : Broker A}
    (succeeded : deliverAll flush (delivered ++ event :: rest) before = (some (.ok ()), after)) :
    ∃ middle next, deliverAll flush delivered before = (some (.ok ()), middle) ∧
      deliver flush event (middle.subscribers (A.eventType event)) middle =
        (some (.ok ()), next) ∧
      deliverAll flush rest next = (some (.ok ()), after) := by
  induction delivered generalizing before with
  | nil =>
      rcases Act.bind_answered succeeded with ⟨_, same, _⟩ | ⟨next, reached, later⟩
      · cases same
      · exact ⟨before, next, rfl, reached, later⟩
  | cons first others ih =>
      rcases Act.bind_answered succeeded with ⟨_, same, _⟩ | ⟨start, reached, later⟩
      · cases same
      · obtain ⟨middle, next, through, given, onward⟩ := ih later
        exact ⟨middle, next, (Act.bind_of_some reached).trans through, given, onward⟩

/-- How far an event came among its handlers before the one that failed. -/
theorem deliver_error {flush : BusId → Act A (Except AppError Unit)} {event : A.Event}
    {handlers : List String} {before after : Broker A} {error : AppError}
    (failed : deliver flush event handlers before = (some (.error error), after)) :
    ∃ served handler rest middle, handlers = served ++ handler :: rest ∧
      deliver flush event served before = (some (.ok ()), middle) ∧
      notify flush event handler middle = (some (.error error), after) := by
  induction handlers generalizing before with
  | nil => cases failed
  | cons handler rest ih =>
      rcases Act.bind_answered failed with ⟨_, same, broken⟩ | ⟨middle, notified, later⟩
      · cases same
        exact ⟨[], handler, rest, before, rfl, rfl, broken⟩
      · obtain ⟨served, other, others, last, split, reached, broken⟩ := ih later
        refine ⟨handler :: served, other, others, last, by rw [split]; rfl, ?_, broken⟩
        exact (Act.bind_of_some notified).trans reached

/-- How far a batch came before the event whose delivery failed. -/
theorem deliverAll_error {flush : BusId → Act A (Except AppError Unit)}
    {events : List A.Event} {before after : Broker A} {error : AppError}
    (failed : deliverAll flush events before = (some (.error error), after)) :
    ∃ delivered event rest middle, events = delivered ++ event :: rest ∧
      deliverAll flush delivered before = (some (.ok ()), middle) ∧
      deliver flush event (middle.subscribers (A.eventType event)) middle =
        (some (.error error), after) := by
  induction events generalizing before with
  | nil => cases failed
  | cons event rest ih =>
      rcases Act.bind_answered failed with ⟨_, same, broken⟩ | ⟨middle, reached, later⟩
      · cases same
        exact ⟨[], event, rest, before, rfl, rfl, broken⟩
      · obtain ⟨delivered, other, others, last, split, through, broken⟩ := ih later
        refine ⟨event :: delivered, other, others, last, by rw [split]; rfl, ?_, broken⟩
        exact (Act.bind_of_some reached).trans through

/-- How a flush failed: some events of its batch were delivered, at the next one a handler could
not be resolved, was none of events or failed, and the rest of the batch was given up.  On every
bus, what waited once the batch was taken and what was published since is what was taken since
and what waits now. -/
structure Aborted (depth : Nat) (bus : BusId) (error : AppError) (before after : Broker A)
    (delivered : List A.Event) (event : A.Event) (rest : List A.Event) : Prop where
  batch : before.buffer bus = delivered ++ event :: rest
  delivered : ∃ middle,
    deliverAll (flush depth) delivered (before.take bus).2 = (some (.ok ()), middle) ∧
    ∃ served handler others last,
      middle.subscribers (A.eventType event) = served ++ handler :: others ∧
      deliver (flush depth) event served middle = (some (.ok ()), last) ∧
      notify (flush depth) event handler last = (some (.error error), after)
  kept : ∃ flushed, after.history = before.history ++ .taken bus (before.buffer bus) :: flushed ∧
    ∀ other, (before.take bus).2.buffer other ++ Activity.publications other flushed =
      Activity.batches other flushed ++ after.buffer other

theorem flush_aborted {depth : Nat} {bus : BusId} {error : AppError} {before after : Broker A}
    (failed : flush (depth + 1) bus before = (some (.error error), after)) :
    ∃ delivered event rest, Aborted depth bus error before after delivered event rest := by
  obtain ⟨delivered, event, rest, middle, split, through, broken⟩ := deliverAll_error failed
  obtain ⟨served, handler, others, last, subscribed, reached, refused⟩ := deliver_error broken
  obtain ⟨flushed, adds⟩ := flush_adds depth bus before
  rw [failed] at adds
  refine ⟨delivered, event, rest, split,
    ⟨middle, through, served, handler, others, last, subscribed, reached, refused⟩,
    flushed, ?_, adds.publications_eq⟩
  rw [adds.history]
  exact List.append_assoc _ [_] _

end Broker

/-! ## Every moment of a run -/

/-- A bus at one moment: what was published on it is partitioned into the batches taken from it
and what waits there. -/
structure Partitioned (bus : BusId) (point : Broker A) : Prop where
  balanced : Balanced bus point
  pending : ∀ flush, (Effect.pending bus).carryOut flush point =
    (some (point.buffer bus).length, point)
  discard : ∀ flush, ∃ dropped after,
    (Effect.discard bus).carryOut flush point = (some (List.length dropped), after) ∧
      Activity.takenFrom bus after.history =
        Activity.takenFrom bus point.history ++ [dropped] ∧
      dropped = point.buffer bus ∧ after.buffer bus = []
  flush : ∀ depth, ∃ flushed, (Broker.flush (depth + 1) bus point).2.history =
    point.history ++ .taken bus (point.buffer bus) :: flushed
  once : (Activity.publications bus point.history).Nodup →
    (Activity.takenFrom bus point.history ++ [point.buffer bus]).Pairwise List.Disjoint
  delivered : ∀ depth after, Broker.flush (depth + 1) bus point = (some (.ok ()), after) →
    ∀ delivered event rest, point.buffer bus = delivered ++ event :: rest →
    ∃ middle next,
      Broker.deliverAll (Broker.flush depth) delivered (point.take bus).2 =
        (some (.ok ()), middle) ∧
      Broker.deliver (Broker.flush depth) event (middle.subscribers (A.eventType event)) middle =
        (some (.ok ()), next) ∧
      Broker.deliverAll (Broker.flush depth) rest next = (some (.ok ()), after)
  aborted : ∀ depth error after,
    Broker.flush (depth + 1) bus point = (some (.error error), after) →
    ∃ delivered event rest, Broker.Aborted depth bus error point after delivered event rest

theorem Balanced.partitioned {bus : BusId} {point : Broker A} (balanced : Balanced bus point) :
    Partitioned bus point where
  balanced := balanced
  pending _ := rfl
  discard _ := by
    refine ⟨point.buffer bus, (point.take bus).2, rfl, ?_, rfl, point.take_buffer bus⟩
    show Activity.takenFrom bus (point.history ++ [.taken bus (point.buffer bus)]) = _
    simp [Activity.takenFrom, Activity.taken?]
  flush depth := by
    obtain ⟨flushed, adds⟩ := Broker.flush_adds depth bus point
    exact ⟨flushed, adds.history.trans (List.append_assoc _ [_] _)⟩
  once distinct := by
    have whole : Activity.publications bus point.history =
        (Activity.takenFrom bus point.history ++ [point.buffer bus]).flatten := by
      rw [List.flatten_concat]
      exact balanced
    rw [whole] at distinct
    exact (List.nodup_flatten.mp distinct).2
  delivered depth after succeeded delivered event rest split := by
    have through : Broker.deliverAll (Broker.flush depth) (point.buffer bus) (point.take bus).2 =
        (some (.ok ()), after) := succeeded
    rw [split] at through
    exact Broker.deliverAll_ok through
  aborted _ _ _ := Broker.flush_aborted

/-- **Nothing is lost, doubled or moved.**  Whatever a program does with the buses, and however
its flushes and those within them end: at every broker that the run passes through, the events
published on a bus so far are those of the batches taken from it and those that wait there, in
the same order.  The trail leads through single steps to the end of the run and leaves out no
moment of the history.  Each event is in one batch at most, what is counted or dropped is all
that waits, and a flush that fails gives up the rest of its own batch alone. -/
theorem published_once (depth : Nat) (bus : BusId) (program : Program A α) (broker : Broker A)
    (balanced : Balanced bus broker) :
    let trail := program.trail (Broker.flush depth) (Broker.flushTrail depth) broker
    let final := (program.run (Broker.flush depth) broker).2
    Path broker trail final ∧
      (∀ moment, broker.history <+: moment → moment <+: final.history →
        ∃ point ∈ broker :: trail, point.history = moment) ∧
      ∀ point ∈ broker :: trail, Partitioned bus point := by
  intro trail final
  have path : Path broker trail final := program.run_path (Broker.flush_path depth) broker
  refine ⟨path, fun moment begun ended => path.covers begun ended, fun point member => ?_⟩
  exact (balanced.along path point member).partitioned

namespace Sample

/-- A notebook where a note that starts something is followed up, flushed in the middle of its
own flush, and then fails. -/
def nestedNotebook : Broker notebook :=
  blankNotebook
    |>.bind "again" ((NoteReaction.republish "main" "next").binding "again")
    |>.bind "drain" ((NoteReaction.flush "main").binding "drain")
    |>.bind "boom" ((NoteReaction.fail (.infrastructure "store down") none).binding "boom")
    |>.bind "log" (NoteReaction.keep.binding "log")
    |>.subscribe "start" "again"
    |>.subscribe "start" "drain"
    |>.subscribe "start" "boom"
    |>.subscribe "next" "log"

/-- Publishes two notes, flushes them, and drops one that is published after that. -/
def nestedRun : Program notebook Nat :=
  .perform (.publish Broker.mainBus [⟨"1", "start"⟩, ⟨"2", "start"⟩]) fun _ =>
    .perform (.flush Broker.mainBus) fun _ =>
      .perform (.publish Broker.mainBus [⟨"3", "start"⟩]) fun _ =>
        .perform (.discard Broker.mainBus) fun count => .done count

/-- The second note is given up with the flush that failed at the first one, whose follow-up was
delivered before; the third note is dropped. -/
theorem published_once_nested :
    Balanced Broker.mainBus nestedNotebook ∧
      Activity.takenFrom Broker.mainBus
          (nestedRun.run (Broker.flush 2) nestedNotebook).2.history =
        [[⟨"1", "start"⟩, ⟨"2", "start"⟩], [⟨"1-next", "next"⟩], [⟨"3", "start"⟩]] ∧
      ∀ point ∈ nestedNotebook ::
          nestedRun.trail (Broker.flush 2) (Broker.flushTrail 2) nestedNotebook,
        Partitioned Broker.mainBus point := by
  have fresh : Balanced Broker.mainBus nestedNotebook := .of_fresh rfl rfl
  refine ⟨fresh, by decide +kernel, ?_⟩
  exact (published_once 2 Broker.mainBus nestedRun nestedNotebook fresh).2.2

end Sample

end Cqrs
