/-
# Proofs.Scoping -- scoped buses share subscriptions and nothing else

Buses that are opened from one another, at any time, are a family.  Calls on its members come in any
order, and a flush may have handlers make further calls.  All members have one table of
subscriptions; each has a buffer of its own, which is empty when the bus is opened.

* `BusCall.moments_course` -- the chronicle of any calls leads through them;
* `BusCall.run_keeps` -- what waits on a bus was put there;
* `BusCall.scope_scoped`, `BusCall.confined` -- opening a bus, and calls that keep to one;
* `scoped_buses_share_subscriptions_only` -- any calls on a family.
-/
import Cqrs.Proofs.Chronicle
import Cqrs.Sample.Notebook

namespace Cqrs

set_option autoImplicit false

variable {A : Application}

/-! ## Calls -/

/-- A call on a member of a family of buses. -/
inductive BusCall (A : Application) where
  /-- Open one more bus from this one. -/
  | scope (parent : BusId)
  | publish (member : BusId) (events : List A.Event)
  | subscribe (member : BusId) (eventType handler : String)
  | subscribers (member : BusId) (eventType : String)
  | flush (member : BusId)
  | discard (member : BusId)
  | pending (member : BusId)

namespace BusCall

def Response : BusCall A → Type
  | .scope _ => BusId
  | .publish _ _ | .subscribe _ _ _ => Unit
  | .subscribers _ _ => List String
  | .flush _ => Except AppError Unit
  | .discard _ | .pending _ => Nat

def carryOut (depth : Nat) : (call : BusCall A) → Act A call.Response
  | .scope _ => fun broker => (some broker.openBus.1, broker.openBus.2)
  | .publish member events => (Effect.publish member events).carryOut (Broker.flush depth)
  | .subscribe _ eventType handler =>
      (Effect.subscribe eventType handler).carryOut (Broker.flush depth)
  | .subscribers _ eventType => Act.look (·.subscribers eventType)
  | .flush member => (Effect.flush member).carryOut (Broker.flush depth)
  | .discard member => (Effect.discard member).carryOut (Broker.flush depth)
  | .pending member => (Effect.pending member).carryOut (Broker.flush depth)

/-- The chronicle of the call, with what handlers do when it is a flush. -/
def chronicle (depth : Nat) : BusCall A → Chronicle A
  | .scope _ => fun broker => [⟨.opened broker.openBus.1, broker.openBus.2⟩]
  | .publish member events =>
      (Effect.publish member events).chronicle (Broker.flush depth) (Broker.flushChronicle depth)
  | .subscribe _ eventType handler =>
      (Effect.subscribe eventType handler).chronicle (Broker.flush depth)
        (Broker.flushChronicle depth)
  | .subscribers _ _ => fun _ => []
  | .flush member =>
      (Effect.flush member).chronicle (Broker.flush depth) (Broker.flushChronicle depth)
  | .discard member =>
      (Effect.discard member).chronicle (Broker.flush depth) (Broker.flushChronicle depth)
  | .pending member =>
      (Effect.pending member).chronicle (Broker.flush depth) (Broker.flushChronicle depth)

def run (depth : Nat) : List (BusCall A) → Broker A → Broker A
  | [], broker => broker
  | call :: rest, broker => run depth rest (call.carryOut depth broker).2

def moments (depth : Nat) : List (BusCall A) → Chronicle A
  | [] => fun _ => []
  | call :: rest => fun broker =>
      call.chronicle depth broker ++ moments depth rest (call.carryOut depth broker).2

theorem carryOut_course (depth : Nat) (call : BusCall A) (broker : Broker A) :
    Course broker (call.chronicle depth broker) (call.carryOut depth broker).2 := by
  have flushes : ∀ bus (broker : Broker A),
      Course broker (Broker.flushChronicle depth bus broker) (Broker.flush depth bus broker).2 :=
    Broker.flush_course depth
  cases call with
  | scope parent => exact .step (.opened broker) (.done _)
  | subscribers member eventType => exact .done broker
  | publish member events => exact (Effect.publish member events).carryOut_course flushes broker
  | subscribe member eventType handler =>
      exact (Effect.subscribe eventType handler).carryOut_course flushes broker
  | flush member => exact (Effect.flush member).carryOut_course flushes broker
  | discard member => exact (Effect.discard member).carryOut_course flushes broker
  | pending member => exact (Effect.pending member).carryOut_course flushes broker

theorem moments_course (depth : Nat) (calls : List (BusCall A)) (broker : Broker A) :
    Course broker (moments depth calls broker) (run depth calls broker) := by
  induction calls generalizing broker with
  | nil => exact .done broker
  | cons call rest ih => exact (call.carryOut_course depth broker).append (ih _)

/-! ## What waits -/

/-- A call other than the opening of a bus tells by its history what it made of the buffers. -/
theorem carryOut_adds (depth : Nat) (call : BusCall A) (broker : Broker A) :
    (∃ added, Broker.Adds added [] broker (call.carryOut depth broker).2) ∨
      ∃ parent, call = .scope parent := by
  cases call with
  | scope parent => exact Or.inr ⟨parent, rfl⟩
  | publish member events => exact Or.inl ⟨_, Broker.publish_adds broker member events⟩
  | subscribe | subscribers | pending => exact Or.inl ⟨[], .nothing rfl rfl (.refl broker)⟩
  | flush member =>
      obtain ⟨added, _, adds⟩ := Broker.flush_grows depth member broker
      exact Or.inl ⟨added, adds⟩
  | discard member => exact Or.inl ⟨_, Broker.take_adds broker member⟩

theorem openBus_buffer (broker : Broker A) (other : BusId) :
    broker.openBus.2.buffer other =
      if broker.openBus.1 = other then [] else broker.buffer other :=
  broker.buffer_put broker.openBus.1 other []

/-- What waits on a bus after a call waited there before or was published on it meanwhile. -/
theorem carryOut_keeps (depth : Nat) (call : BusCall A) (broker : Broker A) :
    ∃ added, (call.carryOut depth broker).2.history = broker.history ++ added ∧
      ∀ bus event, event ∈ (call.carryOut depth broker).2.buffer bus →
        event ∈ broker.buffer bus ∨ event ∈ Activity.publications bus added := by
  rcases call.carryOut_adds depth broker with ⟨added, adds⟩ | ⟨parent, rfl⟩
  · refine ⟨added, adds.history, fun bus event member => List.mem_append.mp ?_⟩
    rw [adds.publications_eq bus]
    exact List.mem_append_right _ member
  · refine ⟨[], (List.append_nil _).symm, fun bus event member => Or.inl ?_⟩
    have left : event ∈ broker.openBus.2.buffer bus := member
    rw [openBus_buffer] at left
    split at left
    · cases left
    · exact left

theorem run_keeps (depth : Nat) (calls : List (BusCall A)) (broker : Broker A) :
    ∃ added, (run depth calls broker).history = broker.history ++ added ∧
      ∀ bus event, event ∈ (run depth calls broker).buffer bus →
        event ∈ broker.buffer bus ∨ event ∈ Activity.publications bus added := by
  induction calls generalizing broker with
  | nil => exact ⟨[], (List.append_nil _).symm, fun _ _ member => Or.inl member⟩
  | cons call rest ih =>
      obtain ⟨first, one, kept⟩ := call.carryOut_keeps depth broker
      obtain ⟨second, two, later⟩ := ih (call.carryOut depth broker).2
      refine ⟨first ++ second, by rw [run, two, one, List.append_assoc], fun bus event member => ?_⟩
      have published : Activity.publications bus (first ++ second) =
          Activity.publications bus first ++ Activity.publications bus second :=
        List.flatMap_append
      rw [published]
      rcases later bus event member with before | here
      · exact (kept bus event before).imp_right (List.mem_append_left _)
      · exact Or.inr (List.mem_append_right _ here)

end BusCall

/-- What is given to handlers where nothing is taken but from one bus: events that waited there or
were published there before. -/
theorem Broker.Adds.delivered {added front back : List (Activity A)} {before after : Broker A}
    {bus : BusId} {handler : String} {event : A.Event} (adds : Broker.Adds added [] before after)
    (taken : ∀ activity ∈ added, activity.TakenFrom bus)
    (split : added = front ++ .notified handler event :: back) :
    event ∈ before.buffer bus ∨ event ∈ Activity.publications bus front := by
  subst split
  rcases adds.sourced.delivered with impossible | ⟨own, batch, took, member⟩
  · cases impossible
  · obtain rfl : own = bus := taken _ (List.mem_append_left _ took)
    have orderly := (Activity.orderly_append.mp (adds.orderly own)).1
    refine List.mem_append.mp ?_
    rw [Activity.publications_eq orderly]
    refine List.mem_append_left _ (List.mem_flatMap.mpr ⟨_, took, ?_⟩)
    simpa [Activity.batch] using member

namespace BusCall

/-- A bus that was opened: it is new and empty, and nothing else changed. -/
structure Scoped (depth : Nat) (parent : BusId) (before : Broker A) (bus : BusId)
    (after : Broker A) : Prop where
  ran : (BusCall.scope parent).carryOut depth before = (some bus, after)
  fresh : ∀ member, before.Member member → member ≠ bus
  member : after.Member bus
  empty : after.buffer bus = []
  others : ∀ other, other ≠ bus → after.buffer other = before.buffer other
  subscribers : ∀ eventType, after.subscribers eventType = before.subscribers eventType

theorem scope_scoped (depth : Nat) (parent : BusId) (before : Broker A) :
    Scoped depth parent before before.openBus.1 before.openBus.2 where
  ran := rfl
  fresh member older := by
    rintro rfl
    exact Nat.lt_irrefl _ older
  member := Nat.lt_succ_self _
  empty := by rw [openBus_buffer, if_pos rfl]
  others other apart := by rw [openBus_buffer, if_neg (Ne.symm apart)]
  subscribers _ := rfl

/-- A call that keeps to one member, after the family had such a start: what waits on any other
member never changes, and what is given to handlers is what was published on this one. -/
structure Confined (depth : Nat) (start before : Broker A) (call : BusCall A) (member : BusId) :
    Prop where
  moments : ∀ moment ∈ call.chronicle depth before, ∀ other, other ≠ member →
    moment.broker.buffer other = before.buffer other
  others : ∀ other, other ≠ member →
    (call.carryOut depth before).2.buffer other = before.buffer other
  delivered : ∃ earlier added, before.history = start.history ++ earlier ∧
    (call.carryOut depth before).2.history = before.history ++ added ∧
    ∀ front handler event back, added = front ++ .notified handler event :: back →
      event ∈ start.buffer member ∨ event ∈ Activity.publications member (earlier ++ front)

theorem confined (depth : Nat) (start : Broker A) (calls : List (BusCall A)) {call : BusCall A}
    {member : BusId}
    (on : ∀ moment ∈ call.chronicle depth (run depth calls start), moment.deed.On member) :
    Confined depth start (run depth calls start) call member where
  moments moment here other apart :=
    ((call.carryOut_course depth _).apart on apart).1 moment here
  others other apart := ((call.carryOut_course depth _).apart on apart).2
  delivered := by
    obtain ⟨earlier, begun, kept⟩ := run_keeps depth calls start
    rcases call.carryOut_adds depth (run depth calls start) with ⟨added, adds⟩ | ⟨parent, rfl⟩
    · refine ⟨earlier, added, begun, adds.history, fun front handler event back split => ?_⟩
      obtain ⟨segment, history, taken⟩ := (call.carryOut_course depth _).adds on
      have same : added = segment := List.append_cancel_left (adds.history.symm.trans history)
      rw [← same] at taken
      have published : Activity.publications member (earlier ++ front) =
          Activity.publications member earlier ++ Activity.publications member front :=
        List.flatMap_append
      rw [published]
      rcases adds.delivered taken split with before | here
      · exact (kept member event before).imp_right (List.mem_append_left _)
      · exact Or.inr (List.mem_append_right _ here)
    · exact (List.forall_mem_singleton.mp on).elim

end BusCall

/-- **Scoped buses share subscriptions and nothing else.**  Take any calls on the members of a
family, with whatever handlers do in the course of flushes.  At every moment each member tells the
same handlers of a type of event: those of the start and all that were subscribed since, on any
member, in the order of the calls.  A bus that is opened is new and empty, whatever waits on others.
A call that keeps to one member, as do the handlers it comes to, leaves what waits on any other
alone and gives handlers nothing but events that were published on this one. -/
theorem scoped_buses_share_subscriptions_only (depth : Nat) (start : Broker A)
    (calls : List (BusCall A)) :
    let moments := BusCall.moments depth calls start
    let before := BusCall.run depth calls start
    Course start moments before ∧
      (∀ bus, start.Member bus → before.Member bus) ∧
      (∀ front moment back, moments = front ++ moment :: back → ∀ member eventType,
        (BusCall.subscribers member eventType).carryOut depth moment.broker =
          (some (start.subscribers eventType ++ handlersFor eventType (front ++ [moment])),
            moment.broker)) ∧
      (∀ parent, ∃ bus after, BusCall.Scoped depth parent before bus after) ∧
      ∀ call member, (∀ moment ∈ call.chronicle depth before, moment.deed.On member) →
        BusCall.Confined depth start before call member := by
  intro moments before
  have course : Course start moments before := BusCall.moments_course depth calls start
  refine ⟨course, fun _ => course.member, ?_,
    fun parent => ⟨_, _, BusCall.scope_scoped depth parent before⟩,
    fun call member on => BusCall.confined depth start calls on⟩
  intro front moment back split member eventType
  have told := course.subscribers split eventType
  show (some (moment.broker.subscribers eventType), moment.broker) = _
  rw [told]

namespace Sample

/-- A notebook where notes that start something start more of it and add a handler for what is
next. -/
def familyNotebook : Broker notebook :=
  blankNotebook
    |>.bind "again" ((NoteReaction.republish "main" "start").binding "again")
    |>.bind "more" ((NoteReaction.subscribe "next" "log").binding "more")
    |>.bind "log" (NoteReaction.keep.binding "log")

def sideBus : BusId := ⟨1⟩

/-- Opens a bus, subscribes on both, and publishes a note on each. -/
def familyCalls : List (BusCall notebook) :=
  [.subscribe Broker.mainBus "start" "again", .publish Broker.mainBus [⟨"1", "start"⟩],
    .scope Broker.mainBus, .subscribe sideBus "start" "more", .publish sideBus [⟨"2", "start"⟩]]

/-- The flush of the main bus comes to handlers that keep to it, so it delivers the one note and
leaves the other. -/
theorem scoped_buses_share_subscriptions_only_family :
    let before := BusCall.run 1 familyCalls familyNotebook
    let after := ((BusCall.flush Broker.mainBus).carryOut 1 before).2
    (∀ moment ∈ (BusCall.flush Broker.mainBus).chronicle 1 before,
        moment.deed.On Broker.mainBus) ∧
      Activity.deliveries after.history = [("again", ⟨"1", "start"⟩), ("more", ⟨"1", "start"⟩)] ∧
      after.buffer Broker.mainBus = [⟨"1-next", "start"⟩] ∧
      after.buffer sideBus = [⟨"2", "start"⟩] ∧
      after.subscribers "next" = ["log"] ∧
      BusCall.Confined 1 familyNotebook before (.flush Broker.mainBus) Broker.mainBus := by
  have on : ∀ moment ∈ (BusCall.flush Broker.mainBus).chronicle 1
      (BusCall.run 1 familyCalls familyNotebook), moment.deed.On Broker.mainBus := by
    decide +kernel
  exact ⟨on, by decide +kernel, by decide +kernel, by decide +kernel, by decide +kernel,
    (scoped_buses_share_subscriptions_only 1 familyNotebook familyCalls).2.2.2.2 _ _ on⟩

end Sample

end Cqrs
