/-
# Proofs.Chronicle -- every call that is made on the way

The history of a broker tells of deliveries and of what went through the buffers, but not of
subscriptions, nor of who looked at what.  The chronicle of a run tells of every effect and every
delivery, also deep within the flushes that handlers start, each with the broker that it left
(`Program.chronicle`, `Broker.flushChronicle`).

The chronicle leads from the broker before the run to the one after it, each moment by what was
done then alone (`Course`).  So what one deed does to the subscriptions and to the buffers tells
what a whole run did, and what was so at every moment of it.

* `Program.run_course`, `Broker.flush_course` -- the chronicle leads through the run;
* `Course.subscribers` -- the handlers of a type of event are those of the start and those
  subscribed since, at every moment;
* `Course.apart`, `Course.adds` -- deeds on one bus leave all others alone.
-/
import Cqrs.Proofs.Growth

namespace Cqrs

set_option autoImplicit false

variable {A : Application} {α β : Type}

/-! ## Moments -/

/-- What is done in one moment. -/
inductive Deed (A : Application) where
  /-- An event is given to a handler. -/
  | notified (handler : String) (event : A.Event)
  /-- An effect is carried out; of a flush, the taking of its batch. -/
  | did (effect : Effect A)
  /-- A bus is opened. -/
  | opened (bus : BusId)

/-- What was done, and the broker that it left. -/
structure Moment (A : Application) where
  deed : Deed A
  broker : Broker A

/-- The moments of a run, by the broker that it begins with. -/
abbrev Chronicle (A : Application) := Broker A → List (Moment A)

/-- The chronicle of a run and of the one that follows, which depends on its answer. -/
def Act.chronicle (act : Act A α) (first : Chronicle A) (next : α → Chronicle A) : Chronicle A :=
  fun broker => first broker ++
    match act broker with
    | (some result, middle) => next result middle
    | (none, _) => []

section Chronicles

variable (flush : BusId → Act A (Except AppError Unit)) (flushes : BusId → Chronicle A)

/-- The chronicle of one effect, where those of flushes are given. -/
def Effect.chronicle : Effect A → Chronicle A
  | .flush bus => flushes bus
  | effect => fun broker => [⟨.did effect, (effect.carryOut flush broker).2⟩]

def Program.chronicle : Program A α → Chronicle A
  | .done _ => fun _ => []
  | .perform effect next =>
      (effect.carryOut flush).chronicle (effect.chronicle flush flushes) fun response =>
        (next response).chronicle

def Broker.notifyChronicle (event : A.Event) (handler : String) : Chronicle A := fun broker =>
  match broker.resolve handler with
  | .error _ => []
  | .ok binding =>
      match binding.asEvent? with
      | some handle =>
          ⟨.notified handler event, broker.record (.notified handler event)⟩ ::
            (handle event).chronicle flush flushes (broker.record (.notified handler event))
      | none => []

def Broker.deliverChronicle (event : A.Event) : List String → Chronicle A
  | [] => fun _ => []
  | handler :: rest =>
      (Broker.notify flush event handler).chronicle
        (Broker.notifyChronicle flush flushes event handler) fun
        | .ok () => deliverChronicle event rest
        | .error _ => fun _ => []

def Broker.deliverAllChronicle : List A.Event → Chronicle A
  | [] => fun _ => []
  | event :: rest => fun broker =>
      (Broker.deliver flush event (broker.subscribers (A.eventType event))).chronicle
        (Broker.deliverChronicle flush flushes event (broker.subscribers (A.eventType event)))
        (fun
          | .ok () => deliverAllChronicle rest
          | .error _ => fun _ => []) broker

end Chronicles

/-- The chronicle of a flush, with all flushes within it. -/
def Broker.flushChronicle : Nat → BusId → Chronicle A
  | 0, _ => fun _ => []
  | depth + 1, bus => fun broker =>
      ⟨.did (.flush bus), (broker.take bus).2⟩ ::
        Broker.deliverAllChronicle (Broker.flush depth) (flushChronicle depth)
          (broker.buffer bus) (broker.take bus).2

/-! ## Courses -/

namespace Deed

/-- What was done led from the one broker to the other. -/
inductive Leads : Deed A → Broker A → Broker A → Prop
  | notified (handler : String) (event : A.Event) (broker : Broker A) :
      Leads (.notified handler event) broker (broker.record (.notified handler event))
  | did {effect : Effect A} (plain : ∀ bus, effect ≠ .flush bus)
      (flush : BusId → Act A (Except AppError Unit)) (broker : Broker A) :
      Leads (.did effect) broker (effect.carryOut flush broker).2
  | flush (bus : BusId) (broker : Broker A) :
      Leads (.did (.flush bus)) broker (broker.take bus).2
  | opened (broker : Broker A) : Leads (.opened broker.openBus.1) broker broker.openBus.2

end Deed

/-- The moments lead from the one broker to the other, each by what was done in it. -/
inductive Course : Broker A → List (Moment A) → Broker A → Prop
  | done (broker : Broker A) : Course broker [] broker
  | step {start final : Broker A} {moment : Moment A} {rest : List (Moment A)}
      (leads : moment.deed.Leads start moment.broker) (later : Course moment.broker rest final) :
      Course start (moment :: rest) final

namespace Course

theorem append {a b c : Broker A} {first second : List (Moment A)} (one : Course a first b)
    (two : Course b second c) : Course a (first ++ second) c := by
  induction one with
  | done broker => exact two
  | step leads later ih => exact .step leads (ih two)

theorem effect (effect : Effect A) (plain : ∀ bus, effect ≠ .flush bus)
    (flush : BusId → Act A (Except AppError Unit)) (broker : Broker A) :
    Course broker [⟨.did effect, (effect.carryOut flush broker).2⟩]
      (effect.carryOut flush broker).2 :=
  .step (.did plain flush broker) (.done _)

theorem bind {act : Act A α} {next : α → Act A β} {first : Chronicle A} {later : α → Chronicle A}
    {broker : Broker A} (one : Course broker (first broker) (act broker).2)
    (two : ∀ result broker, Course broker (later result broker) (next result broker).2) :
    Course broker (act.chronicle first later broker) (act.bind next broker).2 := by
  unfold Act.chronicle
  rcases answered : act broker with ⟨_ | result, middle⟩
  · rw [answered] at one
    rw [Act.bind_of_none answered]
    exact one.append (.done middle)
  · rw [answered] at one
    rw [Act.bind_of_some answered]
    exact one.append (two result middle)

end Course

section Courses

variable {flush : BusId → Act A (Except AppError Unit)} {flushes : BusId → Chronicle A}
  (courses : ∀ bus broker, Course broker (flushes bus broker) (flush bus broker).2)

include courses

theorem Effect.carryOut_course (effect : Effect A) (broker : Broker A) :
    Course broker (effect.chronicle flush flushes broker) (effect.carryOut flush broker).2 := by
  cases effect with
  | flush bus => exact courses bus broker
  | note | log | inspect | update | publish | subscribe | unbind | pending | discard =>
      refine .effect _ ?_ flush broker
      exact nofun

/-- The chronicle of a program leads from its first broker to its last, where those of flushes
do. -/
theorem Program.run_course (program : Program A α) (broker : Broker A) :
    Course broker (program.chronicle flush flushes broker) (program.run flush broker).2 := by
  induction program generalizing broker with
  | done result => exact .done broker
  | perform effect next ih =>
      exact .bind (effect.carryOut_course courses broker) fun response broker => ih response broker

namespace Broker

theorem notify_course (event : A.Event) (handler : String) (broker : Broker A) :
    Course broker (notifyChronicle flush flushes event handler broker)
      (notify flush event handler broker).2 := by
  unfold notifyChronicle notify
  cases broker.resolve handler with
  | error => exact .done broker
  | ok binding =>
      cases found : binding.asEvent? with
      | none =>
          simp only [found]
          exact .done broker
      | some handle =>
          simp only [found]
          exact .step (.notified handler event broker) ((handle event).run_course courses _)

theorem deliver_course (event : A.Event) (handlers : List String) (broker : Broker A) :
    Course broker (deliverChronicle flush flushes event handlers broker)
      (deliver flush event handlers broker).2 := by
  induction handlers generalizing broker with
  | nil => exact .done broker
  | cons handler rest ih =>
      refine .bind (notify_course courses event handler broker) fun result broker => ?_
      cases result with
      | ok => exact ih broker
      | error => exact .done broker

theorem deliverAll_course (events : List A.Event) (broker : Broker A) :
    Course broker (deliverAllChronicle flush flushes events broker)
      (deliverAll flush events broker).2 := by
  induction events generalizing broker with
  | nil => exact .done broker
  | cons event rest ih =>
      refine .bind (deliver_course courses event _ broker) fun result broker => ?_
      cases result with
      | ok => exact ih broker
      | error => exact .done broker

end Broker

end Courses

/-- The chronicle of a flush leads through all flushes within it. -/
theorem Broker.flush_course (depth : Nat) (bus : BusId) (broker : Broker A) :
    Course broker (flushChronicle depth bus broker) (flush depth bus broker).2 := by
  induction depth generalizing bus broker with
  | zero => exact .done broker
  | succ depth ih => exact .step (.flush bus broker) (deliverAll_course ih _ _)

/-! ## Subscriptions -/

/-- The handlers that a deed subscribes to a type of event. -/
def Deed.subscribes (eventType : String) : Deed A → List String
  | .did (.subscribe other handler) => if other = eventType then [handler] else []
  | _ => []

/-- All handlers that were subscribed to a type of event, in the order of the calls. -/
def handlersFor (eventType : String) (moments : List (Moment A)) : List String :=
  moments.flatMap fun moment => moment.deed.subscribes eventType

theorem Deed.Leads.subscribers {deed : Deed A} {before after : Broker A}
    (leads : deed.Leads before after) (eventType : String) :
    after.subscribers eventType = before.subscribers eventType ++ deed.subscribes eventType := by
  cases leads with
  | notified | flush | opened => exact (List.append_nil _).symm
  | @did effect plain flush =>
      cases effect with
      | flush bus => exact absurd rfl (plain bus)
      | subscribe other handler =>
          show ((before.subscriptions ++ [(other, handler)]).filter _).map Prod.snd = _
          rw [List.filter_append, List.map_append]
          by_cases same : other = eventType
          · simp [Broker.subscribers, Deed.subscribes, same]
          · simp [Broker.subscribers, Deed.subscribes, same]
      | note | log | inspect | update | publish | unbind | pending | discard =>
          exact (List.append_nil _).symm

/-- At every moment the handlers of a type of event are those of the start and those subscribed
since. -/
theorem Course.subscribers {start final : Broker A} {moments : List (Moment A)}
    (course : Course start moments final) {front back : List (Moment A)} {moment : Moment A}
    (split : moments = front ++ moment :: back) (eventType : String) :
    moment.broker.subscribers eventType =
      start.subscribers eventType ++ handlersFor eventType (front ++ [moment]) := by
  induction course generalizing front with
  | done broker => simp at split
  | @step start final first rest leads later ih =>
      rcases front with _ | ⟨other, front⟩
      · obtain ⟨rfl, -⟩ := List.cons.inj split
        simpa [handlersFor] using leads.subscribers eventType
      · obtain ⟨rfl, tail⟩ := List.cons.inj split
        rw [ih tail, leads.subscribers eventType]
        simp [handlersFor]

/-! ## Members -/

namespace Broker

/-- The bus is one of the family: one of those that were opened so far. -/
def Member (broker : Broker A) (bus : BusId) : Prop :=
  bus.number < broker.opened

end Broker

theorem Deed.Leads.opened_le {deed : Deed A} {before after : Broker A}
    (leads : deed.Leads before after) : before.opened ≤ after.opened := by
  cases leads with
  | notified | flush => exact Nat.le_refl _
  | opened => exact Nat.le_succ _
  | @did effect plain flush =>
      cases effect with
      | flush bus => exact absurd rfl (plain bus)
      | note | log | inspect | update | publish | subscribe | unbind | pending | discard =>
          exact Nat.le_refl _

/-- No bus leaves the family. -/
theorem Course.member {start final : Broker A} {moments : List (Moment A)}
    (course : Course start moments final) {bus : BusId} (member : start.Member bus) :
    final.Member bus := by
  induction course with
  | done broker => exact member
  | step leads later ih => exact ih (Nat.lt_of_lt_of_le member leads.opened_le)

/-! ## Deeds on one bus -/

/-- The effect reads or changes no buffer but that of the bus. -/
def Effect.On (bus : BusId) : Effect A → Prop
  | .publish other _ | .pending other | .discard other | .flush other => other = bus
  | .note _ | .log _ | .inspect | .update _ | .subscribe _ _ | .unbind _ => True

/-- The deed reads or changes no buffer but that of the bus. -/
def Deed.On (bus : BusId) : Deed A → Prop
  | .notified _ _ => True
  | .did effect => effect.On bus
  | .opened _ => False

instance (bus : BusId) (effect : Effect A) : Decidable (effect.On bus) :=
  match effect with
  | .publish other _ | .pending other | .discard other | .flush other =>
      inferInstanceAs (Decidable (other = bus))
  | .note _ | .log _ | .inspect | .update _ | .subscribe _ _ | .unbind _ =>
      inferInstanceAs (Decidable True)

instance (bus : BusId) (deed : Deed A) : Decidable (deed.On bus) :=
  match deed with
  | .notified _ _ => inferInstanceAs (Decidable True)
  | .did effect => inferInstanceAs (Decidable (effect.On bus))
  | .opened _ => inferInstanceAs (Decidable False)

/-- What was taken was taken from the bus. -/
def Activity.TakenFrom (bus : BusId) : Activity A → Prop
  | .taken other _ => other = bus
  | _ => True

theorem Broker.take_apart (broker : Broker A) {bus other : BusId} (apart : other ≠ bus) :
    (broker.take bus).2.buffer other = broker.buffer other := by
  show ((broker.buffers.put bus []).get? other).getD [] = broker.buffer other
  rw [Broker.buffer_put, if_neg (Ne.symm apart)]

theorem Deed.Leads.apart {deed : Deed A} {before after : Broker A} {bus other : BusId}
    (leads : deed.Leads before after) (on : deed.On bus) (apart : other ≠ bus) :
    after.buffer other = before.buffer other := by
  cases leads with
  | notified => rfl
  | opened => exact on.elim
  | flush own =>
      obtain rfl : own = bus := on
      exact before.take_apart apart
  | @did effect plain flush =>
      cases effect with
      | flush own => exact absurd rfl (plain own)
      | publish own events =>
          obtain rfl : own = bus := on
          show ((before.buffers.put own (before.buffer own ++ events)).get? other).getD [] = _
          rw [Broker.buffer_put, if_neg (Ne.symm apart)]
      | discard own =>
          obtain rfl : own = bus := on
          exact before.take_apart apart
      | note | log | inspect | update | subscribe | unbind | pending => rfl

/-- Deeds on one bus leave what waits on another alone, at every moment. -/
theorem Course.apart {start final : Broker A} {moments : List (Moment A)} {bus other : BusId}
    (course : Course start moments final) (on : ∀ moment ∈ moments, moment.deed.On bus)
    (apart : other ≠ bus) :
    (∀ moment ∈ moments, moment.broker.buffer other = start.buffer other) ∧
      final.buffer other = start.buffer other := by
  induction course with
  | done broker => exact ⟨fun _ member => (List.not_mem_nil member).elim, rfl⟩
  | @step start final first rest leads later ih =>
      obtain ⟨here, others⟩ := List.forall_mem_cons.mp on
      obtain ⟨moments, ended⟩ := ih others
      have same := leads.apart here apart
      refine ⟨List.forall_mem_cons.mpr ⟨same, fun moment member => ?_⟩, ended.trans same⟩
      rw [moments moment member, same]

/-- What one deed on a bus adds to the history. -/
theorem Deed.Leads.adds {deed : Deed A} {before after : Broker A} {bus : BusId}
    (leads : deed.Leads before after) (on : deed.On bus) :
    ∃ added, after.history = before.history ++ added ∧
      ∀ activity ∈ added, activity.TakenFrom bus := by
  cases leads with
  | notified handler event =>
      exact ⟨[.notified handler event], rfl, by simp [Activity.TakenFrom]⟩
  | opened => exact on.elim
  | flush own =>
      obtain rfl : own = bus := on
      exact ⟨[.taken own (before.buffer own)], rfl, by simp [Activity.TakenFrom]⟩
  | @did effect plain flush =>
      cases effect with
      | flush own => exact absurd rfl (plain own)
      | discard own =>
          obtain rfl : own = bus := on
          exact ⟨[.taken own (before.buffer own)], rfl, by simp [Activity.TakenFrom]⟩
      | publish own events =>
          exact ⟨[.published own events], rfl, by simp [Activity.TakenFrom]⟩
      | note line => exact ⟨[.noted line], rfl, by simp [Activity.TakenFrom]⟩
      | log record => exact ⟨[.logged record], rfl, by simp [Activity.TakenFrom]⟩
      | inspect | update | subscribe | unbind | pending =>
          exact ⟨[], (List.append_nil _).symm, by simp⟩

/-- Deeds on one bus take from no other. -/
theorem Course.adds {start final : Broker A} {moments : List (Moment A)} {bus : BusId}
    (course : Course start moments final) (on : ∀ moment ∈ moments, moment.deed.On bus) :
    ∃ added, final.history = start.history ++ added ∧
      ∀ activity ∈ added, activity.TakenFrom bus := by
  induction course with
  | done broker => exact ⟨[], (List.append_nil _).symm, by simp⟩
  | @step start final first rest leads later ih =>
      obtain ⟨here, others⟩ := List.forall_mem_cons.mp on
      obtain ⟨one, history, taken⟩ := leads.adds here
      obtain ⟨two, further, more⟩ := ih others
      refine ⟨one ++ two, by rw [further, history, List.append_assoc], ?_⟩
      exact List.forall_mem_append.mpr ⟨taken, more⟩

end Cqrs
