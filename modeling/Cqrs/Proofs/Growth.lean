/-
# Proofs.Growth -- what a run adds to the history, and what the history tells of the buffers

The history of a broker only grows.  What a run adds to it determines every buffer
(`Activity.waiting`), and it is orderly: a batch that was taken is all that waited then
(`Activity.Orderly`), and an event is given to a handler only out of a batch that was taken
before in the same run (`Activity.Sourced`).  `Grows` is this relation between the broker
before and the broker after; it is kept by handlers of every kind, so it holds of every flush
(`flush_grows`) and of every dispatch (`directDispatch_grows`, `commandDispatch_grows`).

`publications_eq` is the balance that follows: what waited before and what was published is
what was taken and what waits now, in the same order.
-/
import Cqrs.Proofs.Frame

namespace Cqrs

set_option autoImplicit false

variable {A : Application}

/-! ## Reading the history -/

namespace Activity

/-- The events that were put into the buffer of a bus. -/
def publication (bus : BusId) : Activity A → List A.Event
  | .published other events => if other = bus then events else []
  | _ => []

/-- All events that were put into the buffer of a bus, in order. -/
def publications (bus : BusId) (history : List (Activity A)) : List A.Event :=
  history.flatMap (publication bus)

/-- The events that were taken from the buffer of a bus. -/
def batch (bus : BusId) : Activity A → List A.Event
  | .taken other events => if other = bus then events else []
  | _ => []

/-- All events that were taken from the buffer of a bus, in order. -/
def batches (bus : BusId) (history : List (Activity A)) : List A.Event :=
  history.flatMap (batch bus)

/-- The event that was given to a handler, with the id of the handler. -/
def delivery? : Activity A → Option (String × A.Event)
  | .notified handler event => some (handler, event)
  | _ => none

def deliveries (history : List (Activity A)) : List (String × A.Event) :=
  history.filterMap delivery?

/-- What waits on a bus after an activity. -/
def waitingAfter (bus : BusId) (waits : List A.Event) : Activity A → List A.Event
  | .published other events => if other = bus then waits ++ events else waits
  | .taken other _ => if other = bus then [] else waits
  | _ => waits

/-- What waits on a bus in the end, from what waited in the beginning. -/
def waiting (bus : BusId) (waits : List A.Event) (history : List (Activity A)) : List A.Event :=
  history.foldl (waitingAfter bus) waits

/-- Whatever was taken from a bus is all that waited there. -/
def Orderly (bus : BusId) (waits : List A.Event) : List (Activity A) → Prop
  | [] => True
  | activity :: rest =>
      (∀ events, activity = .taken bus events → events = waits) ∧
        Orderly bus (waitingAfter bus waits activity) rest

/-- Whatever was given to a handler is of the batch at hand or was taken before. -/
def Sourced (known : List A.Event) : List (Activity A) → Prop
  | [] => True
  | .notified _ event :: rest => event ∈ known ∧ Sourced known rest
  | .taken _ events :: rest => Sourced (events ++ known) rest
  | _ :: rest => Sourced known rest

/-- The activities that handlers leave and that give events to them. -/
def OfHandlers : Activity A → Prop
  | .noted _ | .logged _ | .published _ _ | .taken _ _ | .notified _ _ => True
  | .handled _ _ _ | .completed _ _ _ _ | .asked _ _ _ | .session _ _ _ => False

/-- The activities other than calls to a unit of work. -/
def Sessionless : Activity A → Prop
  | .session _ _ _ => False
  | _ => True

/-- The activities that leave the buffers alone. -/
def LeavesBuffers : Activity A → Prop
  | .published _ _ | .taken _ _ => False
  | _ => True

theorem waitingAfter_of_leaves {activity : Activity A} (leaves : activity.LeavesBuffers)
    (bus : BusId) (waits : List A.Event) : waitingAfter bus waits activity = waits := by
  cases activity <;> first | exact leaves.elim | rfl

theorem OfHandlers.sessionless {activity : Activity A} (ofHandlers : activity.OfHandlers) :
    activity.Sessionless := by
  cases activity <;> trivial

theorem deliveries_append (first second : List (Activity A)) :
    deliveries (first ++ second) = deliveries first ++ deliveries second :=
  List.filterMap_append

theorem waiting_append (bus : BusId) (waits : List A.Event) (first second : List (Activity A)) :
    waiting bus waits (first ++ second) = waiting bus (waiting bus waits first) second :=
  List.foldl_append

theorem orderly_append {bus : BusId} {waits : List A.Event} {first second : List (Activity A)} :
    Orderly bus waits (first ++ second) ↔
      Orderly bus waits first ∧ Orderly bus (waiting bus waits first) second := by
  induction first generalizing waits with
  | nil => simp [Orderly, waiting]
  | cons activity rest ih =>
      simp only [List.cons_append, Orderly, ih, and_assoc]
      rfl

theorem Sourced.mono {known more : List A.Event} {history : List (Activity A)}
    (sourced : Sourced known history) (within : known ⊆ more) : Sourced more history := by
  induction history generalizing known more with
  | nil => trivial
  | cons activity rest ih =>
      cases activity with
      | notified handler event => exact ⟨within sourced.1, ih sourced.2 within⟩
      | taken bus events =>
          have later : Sourced (events ++ known) rest := sourced
          refine ih later fun event member => ?_
          rcases List.mem_append.mp member with here | before
          · exact List.mem_append_left _ here
          · exact List.mem_append_right _ (within before)
      | noted | logged | published | handled | completed | asked | session =>
          have later : Sourced known rest := sourced
          exact ih later within

theorem Sourced.append {known : List A.Event} {first second : List (Activity A)}
    (one : Sourced known first) (two : Sourced known second) :
    Sourced known (first ++ second) := by
  induction first generalizing known with
  | nil => exact two
  | cons activity rest ih =>
      cases activity with
      | notified handler event => exact ⟨one.1, ih one.2 two⟩
      | taken bus events =>
          have later : Sourced (events ++ known) rest := one
          exact ih later (two.mono (List.subset_append_right events known))
      | noted | logged | published | handled | completed | asked | session =>
          have later : Sourced known rest := one
          exact ih later two

/-- A delivery in a sourced history is of an event known before or taken earlier on. -/
theorem Sourced.delivered {known : List A.Event} {before after : List (Activity A)}
    {handler : String} {event : A.Event}
    (sourced : Sourced known (before ++ .notified handler event :: after)) :
    event ∈ known ∨ ∃ bus events, .taken bus events ∈ before ∧ event ∈ events := by
  induction before generalizing known with
  | nil => exact Or.inl sourced.1
  | cons activity rest ih =>
      cases activity with
      | taken bus events =>
          have later : Sourced (events ++ known) (rest ++ .notified handler event :: after) :=
            sourced
          rcases ih later with member | ⟨other, batch, took, member⟩
          · rcases List.mem_append.mp member with here | before
            · exact Or.inr ⟨bus, events, List.mem_cons_self .., here⟩
            · exact Or.inl before
          · exact Or.inr ⟨other, batch, List.mem_cons_of_mem _ took, member⟩
      | notified other earlier =>
          rcases ih sourced.2 with member | ⟨bus, batch, took, member⟩
          · exact Or.inl member
          · exact Or.inr ⟨bus, batch, List.mem_cons_of_mem _ took, member⟩
      | noted | logged | published | handled | completed | asked | session =>
          have later : Sourced known (rest ++ .notified handler event :: after) := sourced
          rcases ih later with member | ⟨bus, batch, took, member⟩
          · exact Or.inl member
          · exact Or.inr ⟨bus, batch, List.mem_cons_of_mem _ took, member⟩

/-- **No event is lost, doubled or moved**: what waited and what was published is what was
taken and what waits now. -/
theorem publications_eq {bus : BusId} {waits : List A.Event} {history : List (Activity A)}
    (orderly : Orderly bus waits history) :
    waits ++ publications bus history = batches bus history ++ waiting bus waits history := by
  induction history generalizing waits with
  | nil => simp [publications, batches, waiting]
  | cons activity rest ih =>
      have later := ih orderly.2
      simp only [publications, batches, waiting, List.flatMap_cons, List.foldl_cons] at later ⊢
      cases activity with
      | published other events =>
          by_cases same : other = bus
          · simpa [publication, batch, waitingAfter, same] using later
          · simpa [publication, batch, waitingAfter, same] using later
      | taken other events =>
          by_cases same : other = bus
          · have all : events = waits := orderly.1 events (by rw [same])
            simp only [waitingAfter, same, if_true, List.nil_append] at later
            simp [publication, batch, waitingAfter, same, all, later]
          · simpa [publication, batch, waitingAfter, same] using later
      | _ => simpa [publication, batch, waitingAfter] using later

end Activity

/-! ## Growth -/

namespace Broker

/-- What a run made of a broker, told by what it added to the history. -/
structure Adds (segment : List (Activity A)) (batch : List A.Event) (before after : Broker A) :
    Prop where
  history : after.history = before.history ++ segment
  waiting : ∀ bus, after.buffer bus = Activity.waiting bus (before.buffer bus) segment
  orderly : ∀ bus, Activity.Orderly bus (before.buffer bus) segment
  sourced : Activity.Sourced batch segment
  binds : after.BindsWithin before

/-- The history grew by activities of one sort, and the buffers went with it. -/
def Grows (sort : Activity A → Prop) (batch : List A.Event) (before after : Broker A) : Prop :=
  ∃ segment, (∀ activity ∈ segment, sort activity) ∧ Adds segment batch before after

theorem Adds.publications_eq {segment : List (Activity A)} {batch : List A.Event}
    {before after : Broker A} (adds : Adds segment batch before after) (bus : BusId) :
    before.buffer bus ++ Activity.publications bus segment =
      Activity.batches bus segment ++ after.buffer bus := by
  rw [adds.waiting bus]
  exact Activity.publications_eq (adds.orderly bus)

theorem Adds.trans {first second : List (Activity A)} {batch : List A.Event} {a b c : Broker A}
    (one : Adds first batch a b) (two : Adds second batch b c) :
    Adds (first ++ second) batch a c where
  history := by rw [two.history, one.history, List.append_assoc]
  waiting bus := by rw [two.waiting, one.waiting, Activity.waiting_append]
  orderly bus := by
    refine Activity.orderly_append.mpr ⟨one.orderly bus, ?_⟩
    rw [← one.waiting bus]
    exact two.orderly bus
  sourced := one.sourced.append two.sourced
  binds := one.binds.trans two.binds

/-- A run that leaves history and buffers alone. -/
theorem Adds.nothing {batch : List A.Event} {before after : Broker A}
    (history : after.history = before.history) (buffers : after.buffers = before.buffers)
    (binds : after.BindsWithin before) : Adds [] batch before after where
  history := by rw [history, List.append_nil]
  waiting bus := by simp only [buffer, buffers, Activity.waiting, List.foldl_nil]
  orderly _ := trivial
  sourced := trivial
  binds := binds

/-- A line of the history without anything else. -/
theorem Adds.record {batch : List A.Event} (broker : Broker A) (activity : Activity A)
    (leaves : activity.LeavesBuffers) (sourced : Activity.Sourced batch [activity]) :
    Adds [activity] batch broker (broker.record activity) where
  history := rfl
  waiting bus := (Activity.waitingAfter_of_leaves leaves bus _).symm
  orderly bus := by
    refine ⟨fun events same => ?_, trivial⟩
    subst same
    exact leaves.elim
  sourced := sourced
  binds := .refl broker

theorem buffer_put (broker : Broker A) (bus other : BusId) (events : List A.Event) :
    ((broker.buffers.put bus events).get? other).getD [] =
      if bus = other then events else broker.buffer other := by
  rw [Table.get?_put]
  split
  · rfl
  · rfl

theorem take_buffer (broker : Broker A) (bus : BusId) : (broker.take bus).2.buffer bus = [] := by
  show ((broker.buffers.put bus []).get? bus).getD [] = []
  rw [buffer_put, if_pos rfl]

theorem publish_adds {batch : List A.Event} (broker : Broker A) (bus : BusId)
    (events : List A.Event) :
    Adds [.published bus events] batch broker (broker.publish bus events) where
  history := rfl
  waiting other := by
    show ((broker.buffers.put bus (broker.buffer bus ++ events)).get? other).getD [] = _
    rw [buffer_put]
    by_cases same : bus = other
    · subst same
      simp [Activity.waiting, Activity.waitingAfter]
    · simp [Activity.waiting, Activity.waitingAfter, same]
  orderly other := ⟨fun _ same => (nomatch same), trivial⟩
  sourced := trivial
  binds := .refl broker

theorem take_adds {batch : List A.Event} (broker : Broker A) (bus : BusId) :
    Adds [.taken bus (broker.buffer bus)] batch broker (broker.take bus).2 where
  history := rfl
  waiting other := by
    show ((broker.buffers.put bus []).get? other).getD [] = _
    rw [buffer_put]
    by_cases same : bus = other
    · subst same
      simp [Activity.waiting, Activity.waitingAfter]
    · simp [Activity.waiting, Activity.waitingAfter, same]
  orderly other := by
    refine ⟨fun events same => ?_, trivial⟩
    cases same
    rfl
  sourced := trivial
  binds := .refl broker

/-- What a flush did after it took its batch, together with the taking. -/
theorem Adds.after_take {segment : List (Activity A)} {batch : List A.Event}
    {broker after : Broker A} {bus : BusId}
    (adds : Adds segment (broker.buffer bus) (broker.take bus).2 after) :
    Adds (.taken bus (broker.buffer bus) :: segment) batch broker after := by
  have took : Adds [.taken bus (broker.buffer bus)] batch broker (broker.take bus).2 :=
    take_adds broker bus
  refine ⟨?_, fun other => ?_, fun other => ?_, ?_, took.binds.trans adds.binds⟩
  · rw [adds.history, took.history, List.append_assoc]
    rfl
  · rw [adds.waiting, took.waiting]
    rfl
  · have rest := adds.orderly other
    rw [took.waiting] at rest
    exact ⟨(took.orderly other).1, rest⟩
  · exact adds.sourced.mono (List.subset_append_left _ _)

/-! ## The frame -/

theorem Grows.mono {one two : Activity A → Prop} (weaker : ∀ activity, one activity → two activity)
    {batch : List A.Event} {before after : Broker A} (grows : Grows one batch before after) :
    Grows two batch before after := by
  obtain ⟨segment, sort, adds⟩ := grows
  exact ⟨segment, fun activity member => weaker activity (sort activity member), adds⟩

theorem Adds.grows {sort : Activity A → Prop} {batch : List A.Event} {before after : Broker A}
    {activity : Activity A} (adds : Adds [activity] batch before after) (sorted : sort activity) :
    Grows sort batch before after := by
  refine ⟨[activity], fun other member => ?_, adds⟩
  rw [List.mem_singleton.mp member]
  exact sorted

/-- A line of the history of the right sort is growth. -/
theorem record_grows {sort : Activity A → Prop} (broker : Broker A) (activity : Activity A)
    (leaves : activity.LeavesBuffers) (sourced : Activity.Sourced [] [activity])
    (sorted : sort activity) : Grows sort [] broker (broker.record activity) :=
  (Adds.record broker activity leaves sourced).grows sorted

/-- An effect other than a flush adds one activity of handlers at most. -/
theorem effect_adds {batch : List A.Event} (effect : Effect A)
    (flush : BusId → Act A (Except AppError Unit)) (broker : Broker A)
    (plain : ∀ bus, effect ≠ .flush bus) :
    Adds [] batch broker (effect.carryOut flush broker).2 ∨
      ∃ activity, activity.OfHandlers ∧
        Adds [activity] batch broker (effect.carryOut flush broker).2 := by
  cases effect with
  | note line =>
      exact Or.inr ⟨.noted line, trivial, .record broker (.noted line) trivial trivial⟩
  | log record =>
      exact Or.inr ⟨.logged record, trivial, .record broker (.logged record) trivial trivial⟩
  | inspect | update | subscribe | pending => exact Or.inl (.nothing rfl rfl (.refl broker))
  | publish bus events =>
      exact Or.inr ⟨.published bus events, trivial, publish_adds broker bus events⟩
  | unbind id => exact Or.inl (.nothing rfl rfl (unbind_bindsWithin broker id))
  | discard bus =>
      exact Or.inr ⟨.taken bus (broker.buffer bus), trivial, take_adds broker bus⟩
  | flush bus => exact absurd rfl (plain bus)

theorem effect_grows {sort : Activity A → Prop}
    (sorted : ∀ activity : Activity A, activity.OfHandlers → sort activity)
    {batch : List A.Event} (effect : Effect A) (flush : BusId → Act A (Except AppError Unit))
    (broker : Broker A) (plain : ∀ bus, effect ≠ .flush bus) :
    Grows sort batch broker (effect.carryOut flush broker).2 := by
  have added : Adds [] batch broker (effect.carryOut flush broker).2 ∨
      ∃ activity, activity.OfHandlers ∧
        Adds [activity] batch broker (effect.carryOut flush broker).2 :=
    effect_adds effect flush broker plain
  rcases added with nothing | ⟨activity, ofHandlers, one⟩
  · exact ⟨[], fun _ member => (List.not_mem_nil member).elim, nothing⟩
  · exact one.grows (sorted activity ofHandlers)

/-- Growth is kept by handlers of every kind. -/
theorem grows_frame {sort : Activity A → Prop}
    (sorted : ∀ activity : Activity A, activity.OfHandlers → sort activity) :
    Frame (fun _ => True) (Grows sort) where
  refl batch broker :=
    ⟨[], fun _ member => (List.not_mem_nil member).elim, .nothing rfl rfl (.refl broker)⟩
  trans := by
    rintro batch a b c ⟨first, firstSort, one⟩ ⟨second, secondSort, two⟩
    refine ⟨first ++ second, fun activity member => ?_, one.trans two⟩
    rcases List.mem_append.mp member with here | there
    · exact firstSort activity here
    · exact secondSort activity there
  binds := by
    rintro batch a b ⟨segment, _, adds⟩
    exact adds.binds
  effect effect flush broker _ plain := effect_grows sorted effect flush broker plain
  notified handler event broker member :=
    (Adds.record broker (.notified handler event) trivial ⟨member, trivial⟩).grows
      (sorted _ trivial)
  flushed := by
    rintro batch bus broker after ⟨segment, sort, adds⟩
    refine ⟨_, fun activity member => ?_, adds.after_take⟩
    rcases List.mem_cons.mp member with rfl | later
    · exact sorted _ trivial
    · exact sort activity later

/-! ## Flushes and dispatches -/

theorem flush_grows (depth : Nat) (bus : BusId) (broker : Broker A) :
    Grows Activity.OfHandlers [] broker (flush depth bus broker).2 :=
  (grows_frame fun _ ofHandlers => ofHandlers).flush depth bus broker broker.eventsOnly_true

/-- A flush that is allowed to run takes all that waits first. -/
theorem flush_adds (depth : Nat) (bus : BusId) (broker : Broker A) :
    ∃ flushed, Adds flushed (broker.buffer bus) (broker.take bus).2
      (flush (depth + 1) bus broker).2 := by
  have frame : Frame (fun _ => True) (Grows (A := A) Activity.OfHandlers) :=
    grows_frame fun _ ofHandlers => ofHandlers
  have flushes : ∀ other (next : Broker A), next.EventsOnly (fun _ => True) →
      Grows Activity.OfHandlers (broker.buffer bus) next (flush depth other next).2 :=
    fun other next => frame.flush depth other next
  -- the batch at hand is what was taken, and flushes within it make their own
  obtain ⟨flushed, _, adds⟩ := frame.deliverAll flushes (broker.buffer bus)
    (List.Subset.refl _) (broker.take bus).2 (eventsOnly_true _)
  exact ⟨flushed, adds⟩

variable {depth : Nat} {context : Context} {kind : A.Command} {payload : A.Payload kind}

theorem containerDispatch_grows (broker : Broker A) :
    Grows Activity.Sessionless [] broker (dispatch depth context kind payload broker).2 := by
  have frame : Frame (fun _ => True) (Grows (A := A) Activity.Sessionless) :=
    grows_frame fun _ ofHandlers => ofHandlers.sessionless
  refine frame.containerDispatch ?_ ?_ ?_ broker broker.eventsOnly_true broker.commandsOnly_true
  · intro record broker
    exact record_grows broker (.logged record) trivial trivial trivial
  · intro handler kind payload broker
    exact record_grows broker (.handled handler kind payload) trivial trivial trivial
  · intro handler kind payload outcome broker
    exact record_grows broker (.completed handler kind payload outcome) trivial trivial trivial

/-- A bus without transactions grows the history by all but calls to a unit of work. -/
theorem directDispatch_grows (bus : DirectBus) (broker : Broker A) :
    Grows Activity.Sessionless [] broker (bus.dispatch depth context kind payload broker).2 :=
  (grows_frame fun _ ofHandlers => ofHandlers.sessionless).directDispatch
    (fun broker _ => containerDispatch_grows broker) bus broker broker.eventsOnly_true

/-- Growth of any sort, which every command bus keeps. -/
theorem any_frame : Frame (fun _ => True) (Grows (A := A) fun _ => True) :=
  grows_frame fun _ _ => trivial

theorem logged_grows (record : LogRecord) (broker : Broker A) :
    Grows (fun _ => True) [] broker (broker.record (.logged record)) :=
  record_grows broker (.logged record) trivial trivial trivial

theorem session_grows (unit : String) (call : SessionCall) (succeeded : Bool)
    (broker : Broker A) :
    Grows (fun _ => True) [] broker (broker.record (.session unit call succeeded)) :=
  record_grows broker (.session unit call succeeded) trivial trivial trivial

theorem commandDispatch_grows (bus : CommandBus) (broker : Broker A) :
    Grows (fun _ => True) [] broker (bus.dispatch depth context kind payload broker).2 := by
  refine any_frame.commandDispatch logged_grows session_grows ?_ bus broker broker.eventsOnly_true
  intro broker _
  exact (containerDispatch_grows broker).mono fun _ _ => trivial

theorem giveUp_grows (unit : UnitOfWork) (command : String) (error : AppError)
    (broker : Broker A) :
    Grows (fun _ => True) [] broker (CommandBus.giveUp unit command error broker).2 :=
  any_frame.giveUp logged_grows session_grows unit command error broker

end Broker

end Cqrs
