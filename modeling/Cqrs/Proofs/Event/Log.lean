/-
# Proofs.Event.Log -- logs are equal by the identifiers of their events

Two logs are compared by their sizes and by a walk through the pairs of their events.  The walk
alone ends with the shorter log, so that it passes as soon as the identifiers of one log begin
those of the other (`all_same_zip_iff`).  The sizes leave just the logs that have the same
identifiers in the same order (`same_iff`), whatever types their events are of.  What recording
makes of equal logs is then read off the identifiers, one event at a time (`same_recorded_iff`)
and over a row of events (`same_foldl_recorded`).
-/
import Cqrs.Bank.BalanceChange
import Cqrs.Sample.Note
import Mathlib.Data.List.Forall2

namespace Cqrs

set_option autoImplicit false

namespace EventLog

variable {ε : Type}

/-- What is recorded event by event is what is collected at once. -/
theorem foldl_recorded (events : List ε) (log : EventLog ε) :
    events.foldl recorded log = log.append ⟨events⟩ := by
  induction events generalizing log with
  | nil => simp only [List.foldl_nil, append, List.append_nil]
  | cons event later ih =>
      rw [List.foldl_cons, ih]
      simp only [append, recorded, List.append_assoc, List.singleton_append]

variable [DomainEvent ε]

/-! ## Identifiers -/

theorem length_ids (log : EventLog ε) : log.ids.length = log.size :=
  List.length_map DomainEvent.eventId

theorem ids_recorded (log : EventLog ε) (event : ε) :
    (log.recorded event).ids = log.ids ++ [DomainEvent.eventId event] :=
  List.map_append

theorem ids_append (log other : EventLog ε) : (log.append other).ids = log.ids ++ other.ids :=
  List.map_append

/-! ## Equality -/

/-- The walk through the pairs of two rows of events ends with the shorter one: it passes just if
the identifiers of one row begin those of the other. -/
theorem all_same_zip_iff (events others : List ε) :
    ((events.zip others).all fun pair => DomainEvent.same pair.1 pair.2) = true ↔
      events.map DomainEvent.eventId <+: others.map DomainEvent.eventId ∨
        others.map DomainEvent.eventId <+: events.map DomainEvent.eventId := by
  induction events generalizing others with
  -- where either row has come to its end, the walk is over, and that row begins the other
  | nil => simp
  | cons event later ih =>
      cases others with
      | nil => simp
      | cons other rest =>
          rw [List.zip_cons_cons, List.all_cons, Bool.and_eq_true, ih, DomainEvent.same,
            beq_iff_eq, List.map_cons, List.map_cons, List.cons_prefix_cons,
            List.cons_prefix_cons, eq_comm (a := DomainEvent.eventId other), and_or_left]

/-- **Logs are equal if their identifiers are**, in the same order. -/
theorem same_iff (a b : EventLog ε) : a.same b = true ↔ a.ids = b.ids := by
  have walk : _ ↔ a.ids <+: b.ids ∨ b.ids <+: a.ids := all_same_zip_iff a.events b.events
  rw [same, Bool.and_eq_true, beq_iff_eq, walk, ← length_ids, ← length_ids]
  constructor
  · rintro ⟨lengths, first | second⟩
    · exact first.eq_of_length lengths
    · exact (second.eq_of_length lengths.symm).symm
  · intro ids
    exact ⟨congrArg List.length ids, .inl (ids ▸ List.prefix_rfl)⟩

theorem same_equivalence : Equivalence fun a b : EventLog ε => a.same b = true where
  refl a := (same_iff a a).mpr rfl
  symm equal := (same_iff _ _).mpr ((same_iff _ _).mp equal).symm
  trans first second :=
    (same_iff _ _).mpr (((same_iff _ _).mp first).trans ((same_iff _ _).mp second))

/-- Where the identifiers of one log begin those of another, only the sizes tell them apart. -/
theorem same_iff_size_of_prefix {a b : EventLog ε} (begins : a.ids <+: b.ids) :
    a.same b = true ↔ a.size = b.size := by
  rw [same_iff, ← length_ids, ← length_ids]
  exact ⟨congrArg List.length, begins.eq_of_length⟩

/-! ## Recording -/

/-- With one more event each, logs are equal if they were and the events are the same. -/
theorem same_recorded_iff (a b : EventLog ε) (event other : ε) :
    (a.recorded event).same (b.recorded other) = true ↔
      a.same b = true ∧ DomainEvent.same event other = true := by
  rw [same_iff, same_iff, ids_recorded, ids_recorded, List.append_singleton_inj, DomainEvent.same,
    beq_iff_eq]

/-- Equal logs stay equal while the same events are recorded on both. -/
theorem same_foldl_recorded {events others : List ε}
    (rows : List.Forall₂ (fun event other => DomainEvent.same event other = true) events others)
    {a b : EventLog ε} (equal : a.same b = true) :
    (events.foldl recorded a).same (others.foldl recorded b) = true := by
  induction rows generalizing a b with
  | nil => exact equal
  | cons event _ ih => exact ih ((same_recorded_iff a b _ _).mpr ⟨equal, event⟩)

/-- **Logs are equal by the identifiers of their events.**  Two logs are equal if and only if they
have the same identifiers in the same order, and so equality is an equivalence.  Logs of different
sizes are never equal, and where the identifiers of one begin those of the other, nothing but the
sizes tells them apart.  With one more event each, logs are equal if they were and the events are
the same, and equal logs stay equal over any rows of same events.  Recording an event adds its
identifier at the end; collecting the events of two logs, which is the same as recording those of
the second on the first, puts the identifiers of one after those of the other. -/
theorem equal_by_ids (a b : EventLog ε) :
    (a.same b = true ↔ a.ids = b.ids) ∧
    Equivalence (fun one other : EventLog ε => one.same other = true) ∧
    (a.size ≠ b.size → a.same b = false) ∧
    (a.ids <+: b.ids → (a.same b = true ↔ a.size = b.size)) ∧
    (∀ event other : ε, (a.recorded event).same (b.recorded other) = true ↔
      a.same b = true ∧ DomainEvent.same event other = true) ∧
    (∀ events others : List ε,
      List.Forall₂ (fun event other => DomainEvent.same event other = true) events others →
      a.same b = true → (events.foldl recorded a).same (others.foldl recorded b) = true) ∧
    (∀ event : ε, (a.recorded event).ids = a.ids ++ [DomainEvent.eventId event]) ∧
    (a.append b).ids = a.ids ++ b.ids ∧
    a.append b = b.events.foldl recorded a := by
  refine ⟨same_iff a b, same_equivalence, ?_, same_iff_size_of_prefix, same_recorded_iff a b,
    fun _ _ rows => same_foldl_recorded rows, ids_recorded a, ids_append a b,
    (foldl_recorded b.events a).symm⟩
  intro sizes
  refine Bool.eq_false_iff.mpr fun equal => sizes ?_
  rw [← length_ids, ← length_ids, (same_iff a b).mp equal]

end EventLog

namespace Sample

open Bank (AccountEvent)

def noted (id : String) : Note ⊕ AccountEvent :=
  .inl ⟨id, "document.revised"⟩

def booked (id : Bank.EventId) : Note ⊕ AccountEvent :=
  .inr (.record id .epoch ⟨"acc-noted", rfl⟩
    (.deposited ⟨"acc-noted", rfl⟩ ⟨25, .usd, by decide⟩ ⟨"txn-1", rfl⟩))

def noteLog : EventLog (Note ⊕ AccountEvent) :=
  EventLog.empty.recorded (noted "evt-1")

/-- A log with one deposit, which has the identifier of the note. -/
def bookingLog : EventLog (Note ⊕ AccountEvent) :=
  EventLog.empty.recorded (booked ⟨"evt-1", rfl⟩)

/-- A log with a note is equal to one with a deposit of the same identifier, also with one more
event each.  The log of both is not equal to that of the deposit, whose identifiers it begins
with. -/
theorem equal_by_ids_mixedLogs :
    noteLog ≠ bookingLog ∧ noteLog.same bookingLog = true ∧
      (noteLog.recorded (booked ⟨"evt-2", rfl⟩)).same (bookingLog.recorded (noted "evt-2")) = true ∧
      bookingLog.ids <+: (noteLog.append bookingLog).ids ∧
      bookingLog.same (noteLog.append bookingLog) = false := by
  obtain ⟨equal_iff, -, -, -, recorded_iff, -⟩ := EventLog.equal_by_ids noteLog bookingLog
  obtain ⟨-, -, longer, -⟩ := EventLog.equal_by_ids bookingLog (noteLog.append bookingLog)
  have equal : noteLog.same bookingLog = true := equal_iff.mpr rfl
  exact ⟨by decide, equal, (recorded_iff _ _).mpr ⟨equal, rfl⟩, ⟨["evt-1"], rfl⟩, longer (by decide)⟩

end Sample

end Cqrs
