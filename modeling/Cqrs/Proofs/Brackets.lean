/-
# Proofs.Brackets -- the calls that a stack of layers makes

Each transactional layer of a stack opens a session around the calls of those inside of it and
closes it once, so that the calls of a whole stack are brackets (`Bracketed`).  From this alone it
follows what each layer does and what lies inside of which sessions.  How a row of calls ends in a
result is a matter of its own (`Ended`): with the first error that is not one of a rollback.

* `Bracketed.inside` -- all that is no call to a unit of work happens in the innermost session;
* `Bracketed.own` -- the calls of one layer, which closes what it opened and nothing else;
* `Ended.after`, `Ended.clear` -- a row of calls ends as its later part does if nothing failed
  before, and an error stays the result while it is cleared away.
-/
import Cqrs.Broker

namespace Cqrs

set_option autoImplicit false

/-! ## Calls -/

/-- A call that a stack of layers makes, with what came of it. -/
inductive StackCall where
  /-- A transactional layer calls its unit of work. -/
  | session (layer : Nat) (call : SessionCall) (outcome : Except DomainError Unit)
  /-- A flushing layer looks for the event bus of the request. -/
  | seek (outcome : Except AppError BusId)
  /-- The container carries the command out. -/
  | command (outcome : Except AppError Unit)
  /-- A flushing layer flushes the bus. -/
  | flush (bus : BusId) (outcome : Except AppError Unit)
  /-- A flushing layer drops the events that wait on the bus. -/
  | discard (bus : BusId)

namespace StackCall

/-- The error that the call ended in, if it did and is no rollback. -/
def error? : StackCall → Option AppError
  | .session _ .rollback _ => none
  | .session _ _ (.error failure) => some (.domain failure)
  | .seek (.error error) | .command (.error error) | .flush _ (.error error) => some error
  | _ => none

/-- The call only clears away what an error left. -/
def Clears : StackCall → Prop
  | .discard _ | .session _ .rollback _ => True
  | _ => False

/-- The call is none to a unit of work. -/
def Sessionless : StackCall → Prop
  | .session _ _ _ => False
  | _ => True

/-- The call of one layer to its unit of work, and whether it succeeded. -/
def of? (layer : Nat) : StackCall → Option (SessionCall × Bool)
  | .session other call outcome => if other = layer then some (call, outcome.toBool) else none
  | _ => none

end StackCall

/-! ## Brackets -/

/-- Calls where each of so many transactional layers opens a session around the calls of those
inside of it and closes it once, by a commit that succeeds or by a rollback.  A layer whose session
was refused does nothing more. -/
inductive Bracketed : Nat → List StackCall → Prop
  | direct {calls : List StackCall} (sessionless : ∀ call ∈ calls, call.Sessionless) :
      Bracketed 0 calls
  | refused (layer : Nat) (failure : DomainError) :
      Bracketed (layer + 1) [.session layer .createSession (.error failure)]
  | committed {layer : Nat} {calls : List StackCall} (inner : Bracketed layer calls) :
      Bracketed (layer + 1) (.session layer .createSession (.ok ()) ::
        (calls ++ [.session layer .commit (.ok ())]))
  | rolledBack {layer : Nat} {calls : List StackCall} (inner : Bracketed layer calls)
      (outcome : Except DomainError Unit) :
      Bracketed (layer + 1) (.session layer .createSession (.ok ()) ::
        (calls ++ [.session layer .rollback outcome]))
  | uncommitted {layer : Nat} {calls : List StackCall} (inner : Bracketed layer calls)
      (failure : DomainError) (outcome : Except DomainError Unit) :
      Bracketed (layer + 1) (.session layer .createSession (.ok ()) ::
        (calls ++ [.session layer .commit (.error failure), .session layer .rollback outcome]))

/-- The calls that open the sessions of so many layers, outermost first. -/
def openings : Nat → List StackCall
  | 0 => []
  | layer + 1 => .session layer .createSession (.ok ()) :: openings layer

/-- Calls that opened the sessions of so many layers first, and since then none to a unit of work:
what comes next comes inside of all these sessions. -/
def Opened (layers : Nat) (calls : List StackCall) : Prop :=
  ∃ others, calls = openings layers ++ others ∧ ∀ call ∈ others, call.Sessionless

theorem not_sessionless_of_openings {layers : Nat} {call : StackCall}
    (member : call ∈ openings layers) : ¬call.Sessionless := by
  induction layers with
  | zero => cases member
  | succ layer ih =>
      rcases List.mem_cons.mp member with rfl | later
      · exact fun impossible => impossible.elim
      · exact ih later

/-- What stands in a list made of two stands in the first or in the second of them. -/
theorem append_eq_append_cons {α : Type} {first second front back : List α} {x : α}
    (split : first ++ second = front ++ x :: back) :
    (∃ rest, first = front ++ x :: rest) ∨ ∃ rest, front = first ++ rest ∧
      second = rest ++ x :: back := by
  rcases List.append_eq_append_iff.mp split with ⟨rest, here, there⟩ | ⟨rest, here, there⟩
  · exact Or.inr ⟨rest, here, there⟩
  · rcases rest with _ | ⟨held, rest⟩
    · exact Or.inr ⟨[], by rw [here, List.append_nil, List.append_nil], there.symm⟩
    · obtain ⟨rfl, -⟩ := List.cons.inj there
      exact Or.inl ⟨rest, here⟩

/-- What comes after the sessions were opened and before any other call to a unit of work comes
inside of them. -/
theorem Opened.inside {layers : Nat} {calls front back : List StackCall} {call : StackCall}
    (opened : Opened layers calls) (split : calls = front ++ call :: back)
    (other : call.Sessionless) : Opened layers front := by
  obtain ⟨others, rfl, sessionless⟩ := opened
  rcases append_eq_append_cons split with ⟨more, here⟩ | ⟨more, rfl, ends⟩
  · -- the call would stand among those that open the sessions
    have member : call ∈ openings layers := by
      rw [here]
      exact List.mem_append_right _ (List.mem_cons_self ..)
    exact absurd other (not_sessionless_of_openings member)
  · refine ⟨more, rfl, fun earlier member => sessionless earlier ?_⟩
    rw [ends]
    exact List.mem_append_left _ member

/-- The calls of a layer to its unit of work: none if the layer was not come to, and else one
session that was refused, committed or rolled back, this also after a commit that failed. -/
inductive OwnCalls : List (SessionCall × Bool) → Prop
  | none : OwnCalls []
  | refused : OwnCalls [(.createSession, false)]
  | committed : OwnCalls [(.createSession, true), (.commit, true)]
  | rolledBack (succeeded : Bool) : OwnCalls [(.createSession, true), (.rollback, succeeded)]
  | uncommitted (succeeded : Bool) :
      OwnCalls [(.createSession, true), (.commit, false), (.rollback, succeeded)]

namespace Bracketed

variable {layers : Nat} {calls : List StackCall}

/-- What a layer puts around the calls of those inside of it is no more than calls to its unit
of work. -/
theorem inside_of_inner {layer : Nat} {last : List StackCall}
    (closing : ∀ call ∈ last, ¬call.Sessionless)
    (inner : ∀ front call back, calls = front ++ call :: back → call.Sessionless →
      Opened layer front)
    {front back : List StackCall} {call : StackCall}
    (split : .session layer .createSession (.ok ()) :: (calls ++ last) = front ++ call :: back)
    (other : call.Sessionless) : Opened (layer + 1) front := by
  rcases front with _ | ⟨first, front⟩
  · obtain ⟨rfl, -⟩ := List.cons.inj split
    exact other.elim
  · obtain ⟨rfl, rest⟩ := List.cons.inj split
    rcases append_eq_append_cons rest with ⟨more, here⟩ | ⟨more, rfl, ends⟩
    · obtain ⟨others, rfl, sessionless⟩ := inner front call more here other
      exact ⟨others, rfl, sessionless⟩
    · -- the call would stand among those that close the session
      refine absurd other (closing call ?_)
      rw [ends]
      exact List.mem_append_right _ (List.mem_cons_self ..)

/-- All that is no call to a unit of work happens while the sessions of all layers are open and
before one of them is committed or rolled back. -/
theorem inside (bracketed : Bracketed layers calls) {front back : List StackCall}
    {call : StackCall} (split : calls = front ++ call :: back) (other : call.Sessionless) :
    Opened layers front := by
  induction bracketed generalizing front back call with
  | direct sessionless =>
      refine ⟨front, rfl, fun earlier member => sessionless earlier ?_⟩
      rw [split]
      exact List.mem_append_left _ member
  | refused layer failure =>
      rcases front with _ | ⟨first, front⟩
      · obtain ⟨rfl, -⟩ := List.cons.inj split
        exact other.elim
      · simp at split
  | committed inner ih =>
      refine inside_of_inner ?_ (fun _ _ _ split other => ih split other) split other
      simp [StackCall.Sessionless]
  | rolledBack inner outcome ih =>
      refine inside_of_inner ?_ (fun _ _ _ split other => ih split other) split other
      simp [StackCall.Sessionless]
  | uncommitted inner failure outcome ih =>
      refine inside_of_inner ?_ (fun _ _ _ split other => ih split other) split other
      simp [StackCall.Sessionless]

/-- Only the layers that are there make calls. -/
theorem of?_eq_none (bracketed : Bracketed layers calls) {layer : Nat} (beyond : layers ≤ layer)
    {call : StackCall} (member : call ∈ calls) : call.of? layer = none := by
  induction bracketed with
  | direct sessionless =>
      have other := sessionless call member
      cases call with
      | session => exact other.elim
      | seek | command | flush | discard => rfl
  | refused own failure =>
      obtain rfl := List.mem_singleton.mp member
      exact if_neg (by omega)
  | committed inner ih | rolledBack inner outcome ih | uncommitted inner failure outcome ih =>
      simp only [List.mem_cons, List.mem_append, List.not_mem_nil, or_false] at member
      have apart : ∀ (other : Nat) (call : SessionCall) (outcome : Except DomainError Unit),
          other + 1 ≤ layer → StackCall.of? layer (.session other call outcome) = none :=
        fun other call outcome beyond => if_neg (by omega)
      grind

/-- What a layer puts around the calls of those inside of it is all that it does itself, and
leaves the calls of all others as they were. -/
theorem own_of_inner {layer sought : Nat} {last : List StackCall}
    (inner : ∀ layer, OwnCalls (calls.filterMap (StackCall.of? layer)))
    (absent : ∀ call ∈ calls, call.of? layer = none)
    (closing : ∀ call ∈ last, ∀ other, other ≠ layer → call.of? other = none)
    (own : OwnCalls ((.createSession, true) :: last.filterMap (StackCall.of? layer))) :
    OwnCalls ((.session layer .createSession (.ok ()) :: (calls ++ last)).filterMap
      (StackCall.of? sought)) := by
  by_cases same : sought = layer
  · subst same
    have others : calls.filterMap (StackCall.of? sought) = [] :=
      List.filterMap_eq_nil_iff.mpr absent
    simpa [StackCall.of?, others, Except.toBool] using own
  · have nothing : last.filterMap (StackCall.of? sought) = [] :=
      List.filterMap_eq_nil_iff.mpr fun call member => closing call member sought same
    simpa [StackCall.of?, nothing, Ne.symm same] using inner sought

/-- Every layer closes the session that it opened, once, and nothing else. -/
theorem own (bracketed : Bracketed layers calls) (layer : Nat) :
    OwnCalls (calls.filterMap (StackCall.of? layer)) := by
  induction bracketed generalizing layer with
  | direct sessionless =>
      have nothing : ∀ call ∈ _, StackCall.of? layer call = none := fun call member =>
        (Bracketed.direct sessionless).of?_eq_none (Nat.zero_le layer) member
      rw [List.filterMap_eq_nil_iff.mpr nothing]
      exact .none
  | refused own failure =>
      by_cases same : own = layer
      · simpa [StackCall.of?, same, Except.toBool] using OwnCalls.refused
      · simpa [StackCall.of?, same] using OwnCalls.none
  | @committed own calls inner ih =>
      refine own_of_inner ih (fun call => inner.of?_eq_none (Nat.le_refl own)) ?_ ?_
      · simp +contextual [StackCall.of?, eq_comm]
      · simpa [StackCall.of?, Except.toBool] using OwnCalls.committed
  | @rolledBack own calls inner outcome ih =>
      refine own_of_inner ih (fun call => inner.of?_eq_none (Nat.le_refl own)) ?_ ?_
      · simp +contextual [StackCall.of?, eq_comm]
      · simpa [StackCall.of?] using OwnCalls.rolledBack outcome.toBool
  | @uncommitted own calls inner failure outcome ih =>
      refine own_of_inner ih (fun call => inner.of?_eq_none (Nat.le_refl own)) ?_ ?_
      · simp +contextual [StackCall.of?, eq_comm]
      · simpa [StackCall.of?, Except.toBool] using OwnCalls.uncommitted outcome.toBool

end Bracketed

/-! ## Errors -/

/-- Calls that end with a result: a success where none of them failed, and else the first error
that is not one of a rollback, with nothing but clearing away after it. -/
inductive Ended : List StackCall → Except AppError Unit → Prop
  | ok {calls : List StackCall} (faultless : ∀ call ∈ calls, call.error? = none) :
      Ended calls (.ok ())
  | error {front back : List StackCall} {call : StackCall} {error : AppError}
      (faultless : ∀ earlier ∈ front, earlier.error? = none)
      (failed : call.error? = some error) (clears : ∀ later ∈ back, later.Clears) :
      Ended (front ++ call :: back) (.error error)

namespace Ended

/-- After calls that did not fail, further calls decide. -/
theorem after {first second : List StackCall} {result : Except AppError Unit}
    (ended : Ended second result) (faultless : ∀ call ∈ first, call.error? = none) :
    Ended (first ++ second) result := by
  cases ended with
  | ok others =>
      refine .ok fun call member => ?_
      rcases List.mem_append.mp member with here | there
      · exact faultless call here
      · exact others call there
  | @error front back call error others failed clears =>
      rw [← List.append_assoc]
      refine .error (fun earlier member => ?_) failed clears
      rcases List.mem_append.mp member with here | there
      · exact faultless earlier here
      · exact others earlier there

theorem cons {call : StackCall} {calls : List StackCall} {result : Except AppError Unit}
    (ended : Ended calls result) (succeeded : call.error? = none) :
    Ended (call :: calls) result := by
  have faultless : ∀ earlier ∈ [call], earlier.error? = none :=
    List.forall_mem_singleton.mpr succeeded
  exact ended.after faultless

theorem faultless {calls : List StackCall} (ended : Ended calls (.ok ())) :
    ∀ call ∈ calls, call.error? = none := by
  cases ended with
  | ok faultless => exact faultless

/-- A call that failed, on its own. -/
theorem failure {call : StackCall} {error : AppError} (failed : call.error? = some error) :
    Ended [call] (.error error) :=
  .error (fun _ member => (List.not_mem_nil member).elim) failed
    fun _ member => (List.not_mem_nil member).elim

/-- An error stays the result while it is cleared away. -/
theorem clear {calls last : List StackCall} {error : AppError} (ended : Ended calls (.error error))
    (clears : ∀ call ∈ last, call.Clears) : Ended (calls ++ last) (.error error) := by
  cases ended with
  | @error front back call error others failed earlier =>
      rw [List.append_assoc, List.cons_append]
      refine .error others failed fun later member => ?_
      rcases List.mem_append.mp member with here | there
      · exact earlier later here
      · exact clears later there

end Ended

end Cqrs
