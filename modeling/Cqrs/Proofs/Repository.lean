/-
# Proofs.Repository -- what a repository answers, told by the calls before

Calls reach a repository one after another, from the time when it is empty.  Its answers depend
on the saves and deletes alone: an identity is held since the first save after its last delete
(`EnteredAt`), and what is held is the object that was saved last (`LastSaved`), without its
recorded events.  Objects stand in the order in which their identities came in.

* `Represents.save`, `Represents.delete`, `Represents.look` -- the stored objects stay the ones
  that the calls tell of, one call at a time;
* `after_cases` -- so they are after any calls, unless a save broke off;
* `answers_of_calls` -- the answers after any calls; after a save that broke off all of them are
  refusals.

Objects are made of a log of events and of the rest (`LoggedAggregate`), and clearing the log
leaves the rest.
-/
import Cqrs.Bank.Account
import Cqrs.Proofs.Store
import Cqrs.Sample.Note
import Mathlib.Data.List.Induction
import Mathlib.Data.List.Nodup
import Mathlib.Tactic.ByContra

namespace Cqrs

set_option autoImplicit false

/-! ## Objects -/

/-- Objects made of a log of events and of the rest, their identity among it, where clearing the
log leaves the rest. -/
class LoggedAggregate (α : Type) [Aggregate α] where
  Event : Type
  Rest : Type
  events : α → EventLog Event
  rest : α → Rest
  eq_of_parts : ∀ {a b : α}, events a = events b → rest a = rest b → a = b
  id_of_rest : ∀ {a b : α}, rest a = rest b → Aggregate.id a = Aggregate.id b
  events_withoutEvents : ∀ item : α, events (Aggregate.withoutEvents item) = .empty
  rest_withoutEvents : ∀ item : α, rest (Aggregate.withoutEvents item) = rest item

theorem id_withoutEvents {α : Type} [Aggregate α] [LoggedAggregate α] (item : α) :
    Aggregate.id (Aggregate.withoutEvents item) = Aggregate.id item :=
  LoggedAggregate.id_of_rest (LoggedAggregate.rest_withoutEvents item)

instance : LoggedAggregate Bank.Account where
  Event := Bank.AccountEvent
  Rest := Bank.AccountId × Bank.Balance × List Bank.Transaction
  events := Bank.Account.events
  rest account := (account.id, account.balance, account.transactions)
  eq_of_parts {a b} events rest := by
    cases a
    cases b
    cases events
    cases rest
    rfl
  id_of_rest rest := congrArg Prod.fst rest
  events_withoutEvents _ := rfl
  rest_withoutEvents _ := rfl

instance : LoggedAggregate Sample.Document where
  Event := Sample.Note
  Rest := Identifier Sample.documentKind × String × Bool
  events := Sample.Document.events
  rest document := (document.id, document.title, document.brittle)
  eq_of_parts {a b} events rest := by
    cases a
    cases b
    cases events
    cases rest
    rfl
  id_of_rest rest := congrArg Prod.fst rest
  events_withoutEvents _ := rfl
  rest_withoutEvents _ := rfl

/-! ## Calls -/

namespace Repository

/-- A call to a repository. -/
inductive Call (α : Type) [Aggregate α] where
  | save (item : α)
  | delete (id : Identifier (Aggregate.kind α))
  | find (id : Identifier (Aggregate.kind α))
  | obtain (resource : String) (id : Identifier (Aggregate.kind α))
  | all
  | size
  | isEmpty

variable {α : Type} [Aggregate α]

namespace Call

def Reply : Call α → Type
  | .save _ => SaveOutcome
  | .delete _ => Except DomainError Unit
  | .find _ => Except DomainError (Option α)
  | .obtain _ _ => Except DomainError α
  | .all => Except DomainError (List α)
  | .size => Except DomainError Nat
  | .isEmpty => Except DomainError Bool

def touched : Call α → Option (Identifier (Aggregate.kind α))
  | .save item => some (Aggregate.id item)
  | .delete id => some id
  | .find _ | .obtain _ _ | .all | .size | .isEmpty => none

/-- The reply is that of a poisoned repository: its error, and no data. -/
def Refused : (call : Call α) → call.Reply → Prop
  | .save _, outcome => outcome = .refused (poisonedError α)
  | .delete _, result => result = .error (poisonedError α)
  | .find _, result => result = .error (poisonedError α)
  | .obtain _ _, result => result = .error (poisonedError α)
  | .all, result => result = .error (poisonedError α)
  | .size, result => result = .error (poisonedError α)
  | .isEmpty, result => result = .error (poisonedError α)

end Call

/-- The reply to a call, and the repository after it. -/
def perform (repository : Repository α) : (call : Call α) → call.Reply × Repository α
  | .save item => repository.save item
  | .delete id => repository.delete id
  | .find id => (repository.find? id, repository)
  | .obtain resource id => (repository.obtain resource id, repository)
  | .all => (repository.all, repository)
  | .size => (repository.size, repository)
  | .isEmpty => (repository.isEmpty, repository)

def after (calls : List (Call α)) : Repository α :=
  calls.foldl (fun repository call => (repository.perform call).2) .empty

def reply (calls : List (Call α)) (call : Call α) : call.Reply :=
  ((after calls).perform call).1

def BrokeOff (calls : List (Call α)) : Prop :=
  ∃ before item later, calls = before ++ .save item :: later ∧
    reply before (.save item) = SaveOutcome.brokenOff

/-! ## What the calls tell -/

/-- The object is the last one that was saved under its identity, which was not deleted since. -/
def LastSaved (calls : List (Call α)) (saved : α) : Prop :=
  ∃ before later, calls = before ++ .save saved :: later ∧
    ∀ call ∈ later, call.touched ≠ some (Aggregate.id saved)

/-- The identity came in by the call at a position: that is its first save since its last
delete. -/
def EnteredAt (calls : List (Call α)) (id : Identifier (Aggregate.kind α)) (position : Nat) :
    Prop :=
  ∃ before item later, calls = before ++ .save item :: later ∧ before.length = position ∧
    Aggregate.id item = id ∧ .delete id ∉ later ∧
    ∀ front earlier back, before = front ++ .save earlier :: back → Aggregate.id earlier = id →
      .delete id ∈ back

/-- One identity came in before another one. -/
def EnteredBefore (calls : List (Call α)) (one other : Identifier (Aggregate.kind α)) : Prop :=
  ∃ first second, first < second ∧ EnteredAt calls one first ∧ EnteredAt calls other second

theorem lastSaved_concat {calls : List (Call α)} {call : Call α} {saved : α} :
    LastSaved (calls ++ [call]) saved ↔
      call = .save saved ∨ LastSaved calls saved ∧ call.touched ≠ some (Aggregate.id saved) := by
  constructor
  · rintro ⟨before, later, split, untouched⟩
    rcases later.eq_nil_or_concat' with rfl | ⟨others, last, rfl⟩
    · obtain ⟨-, same⟩ := List.append_inj' split rfl
      exact Or.inl (List.singleton_inj.mp same)
    · rw [← List.cons_append, ← List.append_assoc] at split
      obtain ⟨rfl, same⟩ := List.append_inj' split rfl
      obtain rfl := List.singleton_inj.mp same
      refine Or.inr ⟨⟨before, others, rfl, fun other member => ?_⟩, ?_⟩
      · exact untouched other (List.mem_append_left _ member)
      · exact untouched call (List.mem_append_right _ (List.mem_singleton_self _))
  · rintro (rfl | ⟨⟨before, later, rfl, untouched⟩, apart⟩)
    · exact ⟨calls, [], rfl, fun _ member => (List.not_mem_nil member).elim⟩
    · refine ⟨before, later ++ [call], by simp, fun other member => ?_⟩
      rcases List.mem_append.mp member with inLater | last
      · exact untouched other inLater
      · rw [List.mem_singleton.mp last]
        exact apart

/-- A call that concerns another identity, or none, leaves the last save what it was. -/
theorem lastSaved_concat_apart {calls : List (Call α)} {call : Call α} {saved : α}
    (apart : call.touched ≠ some (Aggregate.id saved)) :
    LastSaved (calls ++ [call]) saved ↔ LastSaved calls saved := by
  rw [lastSaved_concat]
  constructor
  · rintro (rfl | ⟨lastSaved, -⟩)
    · exact absurd rfl apart
    · exact lastSaved
  · exact fun lastSaved => Or.inr ⟨lastSaved, apart⟩

/-- An identity that was saved and not deleted since is held. -/
theorem lastSaved_of_saved {before later : List (Call α)} {item : α}
    (kept : .delete (Aggregate.id item) ∉ later) :
    ∃ saved, LastSaved (before ++ .save item :: later) saved ∧
      Aggregate.id saved = Aggregate.id item := by
  induction later using List.reverseRecOn with
  | nil => exact ⟨item, ⟨before, [], rfl, fun _ member => (List.not_mem_nil member).elim⟩, rfl⟩
  | append_singleton later call ih =>
      rw [List.mem_append, not_or] at kept
      obtain ⟨saved, lastSaved, identity⟩ := ih kept.1
      rw [← List.cons_append, ← List.append_assoc]
      by_cases touched : call.touched = some (Aggregate.id item)
      · -- the call is no delete of the identity, so it saves the identity once more
        cases call with
        | save other => exact ⟨other, lastSaved_concat.mpr (Or.inl rfl), Option.some.inj touched⟩
        | delete id =>
            obtain rfl := Option.some.inj touched
            exact absurd (List.mem_singleton_self _) kept.2
        | find | obtain | all | size | isEmpty => cases touched
      · rw [← identity] at touched
        exact ⟨saved, lastSaved_concat.mpr (Or.inr ⟨lastSaved, touched⟩), identity⟩

theorem EnteredAt.lt {calls : List (Call α)} {id : Identifier (Aggregate.kind α)}
    {position : Nat} (entered : EnteredAt calls id position) : position < calls.length := by
  obtain ⟨before, item, later, rfl, rfl, -⟩ := entered
  rw [List.length_append, List.length_cons]
  omega

theorem EnteredAt.concat {calls : List (Call α)} {id : Identifier (Aggregate.kind α)}
    {position : Nat} (entered : EnteredAt calls id position) {call : Call α}
    (kept : call ≠ .delete id) : EnteredAt (calls ++ [call]) id position := by
  obtain ⟨before, item, later, rfl, length, identity, stays, earlier⟩ := entered
  refine ⟨before, item, later ++ [call], by simp, length, identity, ?_, earlier⟩
  rw [List.mem_append, List.mem_singleton, not_or]
  exact ⟨stays, Ne.symm kept⟩

theorem EnteredBefore.concat {calls : List (Call α)} {one other : Identifier (Aggregate.kind α)}
    (entered : EnteredBefore calls one other) {call : Call α} (keptOne : call ≠ .delete one)
    (keptOther : call ≠ .delete other) : EnteredBefore (calls ++ [call]) one other := by
  obtain ⟨first, second, less, atFirst, atSecond⟩ := entered
  exact ⟨first, second, less, atFirst.concat keptOne, atSecond.concat keptOther⟩

/-- An identity that is not held comes in by the next save of it. -/
theorem enteredAt_length {calls : List (Call α)} {item : α}
    (unheld : ∀ saved, LastSaved calls saved → Aggregate.id saved ≠ Aggregate.id item) :
    EnteredAt (calls ++ [.save item]) (Aggregate.id item) calls.length := by
  refine ⟨calls, item, [], rfl, rfl, rfl, List.not_mem_nil, ?_⟩
  intro front earlier back split identity
  by_contra kept
  rw [← identity] at kept
  have held : ∃ saved, LastSaved (front ++ .save earlier :: back) saved ∧
      Aggregate.id saved = Aggregate.id earlier := lastSaved_of_saved kept
  obtain ⟨saved, lastSaved, same⟩ := held
  rw [← split] at lastSaved
  exact unheld saved lastSaved (same.trans identity)

/-! ## One call -/

/-- The stored objects are the ones that the calls tell of, in the order in which their
identities came in. -/
structure Represents (calls : List (Call α)) (store : Store α) : Prop where
  distinct : (store.items.map Aggregate.id).Nodup
  find?_eq : ∀ id item, store.find? id = some item ↔
    ∃ saved, LastSaved calls saved ∧ Aggregate.id saved = id ∧
      item = Aggregate.withoutEvents saved
  entered : ∀ id ∈ store.items.map Aggregate.id, ∃ position, EnteredAt calls id position
  ordered : (store.items.map Aggregate.id).Pairwise (EnteredBefore calls)

theorem represents_empty : Represents ([] : List (Call α)) .empty where
  distinct := .nil
  find?_eq id item := by
    constructor
    · intro found
      cases found
    · rintro ⟨saved, ⟨before, later, split, -⟩, -⟩
      cases before <;> cases split
  entered _ member := (List.not_mem_nil member).elim
  ordered := .nil

namespace Represents

variable {calls : List (Call α)} {store : Store α}

/-- The identities that are held are those of the stored objects. -/
theorem mem_ids_iff (represents : Represents calls store)
    (id : Identifier (Aggregate.kind α)) :
    id ∈ store.items.map Aggregate.id ↔
      ∃ saved, LastSaved calls saved ∧ Aggregate.id saved = id := by
  constructor
  · intro member
    obtain ⟨item, stored, rfl⟩ := List.mem_map.mp member
    obtain ⟨saved, lastSaved, identity, -⟩ :=
      (represents.find?_eq _ item).mp (Store.find?_of_mem represents.distinct stored)
    exact ⟨saved, lastSaved, identity⟩
  · rintro ⟨saved, lastSaved, identity⟩
    have found := (represents.find?_eq id _).mpr ⟨saved, lastSaved, identity, rfl⟩
    obtain ⟨stored, same⟩ := Store.mem_of_find? found
    rw [← same]
    exact List.mem_map_of_mem stored

/-- A call that does not concern an identity changes nothing of what is found under it. -/
theorem find?_concat_apart (represents : Represents calls store) {call : Call α}
    {id : Identifier (Aggregate.kind α)} (apart : call.touched ≠ some id) (item : α) :
    store.find? id = some item ↔
      ∃ saved, LastSaved (calls ++ [call]) saved ∧ Aggregate.id saved = id ∧
        item = Aggregate.withoutEvents saved := by
  rw [represents.find?_eq]
  refine exists_congr fun saved => and_congr_left fun ⟨identity, _⟩ => ?_
  subst identity
  exact (lastSaved_concat_apart apart).symm

/-- A call that saves and deletes nothing. -/
theorem look (represents : Represents calls store) {call : Call α}
    (looks : call.touched = none) : Represents (calls ++ [call]) store := by
  have kept : ∀ id, call ≠ .delete id := by
    rintro id rfl
    cases looks
  refine ⟨represents.distinct, fun id item => ?_, fun id member => ?_, ?_⟩
  · refine represents.find?_concat_apart ?_ item
    rw [looks]
    exact nofun
  · exact (represents.entered id member).imp fun _ entered => entered.concat (kept id)
  · exact represents.ordered.imp fun before => before.concat (kept _) (kept _)

theorem delete (represents : Represents calls store) (id : Identifier (Aggregate.kind α)) :
    Represents (calls ++ [.delete id]) (store.delete id) := by
  have sub : ((store.delete id).items.map Aggregate.id).Sublist
      (store.items.map Aggregate.id) := List.filter_sublist.map _
  have kept : ∀ other ∈ (store.delete id).items.map Aggregate.id,
      Call.delete id ≠ .delete other := by
    intro other member same
    obtain rfl := Call.delete.inj same
    obtain ⟨item, stored, identity⟩ := List.mem_map.mp member
    have apart := (List.mem_filter.mp stored).2
    simp [identity] at apart
  refine ⟨represents.distinct.sublist sub, fun other item => ?_, fun other member => ?_, ?_⟩
  · rw [Store.find?_delete]
    by_cases same : id = other
    · rw [if_pos same]
      constructor
      · intro found
        cases found
      · rintro ⟨saved, lastSaved, identity, -⟩
        rcases lastSaved_concat.mp lastSaved with own | ⟨-, apart⟩
        · cases own
        · exact absurd (congrArg some (same.trans identity.symm)) apart
    · rw [if_neg same]
      refine represents.find?_concat_apart (fun touched => ?_) item
      exact same (Option.some.inj touched)
  · obtain ⟨position, entered⟩ := represents.entered other (sub.subset member)
    exact ⟨position, entered.concat (kept other member)⟩
  · refine (represents.ordered.sublist sub).imp_of_mem fun one other before => ?_
    exact before.concat (kept _ one) (kept _ other)

variable [LoggedAggregate α]

theorem save (represents : Represents calls store) (item : α) :
    Represents (calls ++ [.save item]) (store.save item) := by
  have kept : ∀ id, Call.save item ≠ .delete id := nofun
  have stays : (store.items.map Aggregate.id).Pairwise
      (EnteredBefore (calls ++ [.save item])) :=
    represents.ordered.imp fun before => before.concat (kept _) (kept _)
  have still : ∀ id ∈ store.items.map Aggregate.id,
      ∃ position, EnteredAt (calls ++ [.save item]) id position := fun id member =>
    (represents.entered id member).imp fun _ entered => entered.concat (kept _)
  have found : ∀ id other, (store.save item).find? id = some other ↔
      ∃ saved, LastSaved (calls ++ [.save item]) saved ∧ Aggregate.id saved = id ∧
        other = Aggregate.withoutEvents saved := by
    intro id other
    rw [Store.find?_save, id_withoutEvents]
    by_cases same : Aggregate.id item = id
    · rw [if_pos same]
      constructor
      · intro this
        exact ⟨item, lastSaved_concat.mpr (Or.inl rfl), same, (Option.some.inj this).symm⟩
      · rintro ⟨saved, lastSaved, identity, rfl⟩
        rcases lastSaved_concat.mp lastSaved with own | ⟨-, apart⟩
        · cases own
          rfl
        · exact absurd (congrArg some (same.trans identity.symm)) apart
    · rw [if_neg same]
      refine represents.find?_concat_apart (fun touched => ?_) other
      exact same (Option.some.inj touched)
  have distinct : ((store.save item).items.map Aggregate.id).Nodup :=
    Store.nodup_place represents.distinct _
  have ids := Store.ids_place (Aggregate.withoutEvents item) store.items
  rw [id_withoutEvents] at ids
  change (store.save item).items.map Aggregate.id = _ at ids
  by_cases held : Aggregate.id item ∈ store.items.map Aggregate.id
  · rw [if_pos held] at ids
    rw [← ids] at stays still
    exact ⟨distinct, found, still, stays⟩
  · rw [if_neg held] at ids
    have entered : EnteredAt (calls ++ [.save item]) (Aggregate.id item) calls.length :=
      enteredAt_length fun saved lastSaved identity =>
        held ((represents.mem_ids_iff _).mpr ⟨saved, lastSaved, identity⟩)
    refine ⟨distinct, found, ?_, ?_⟩
    · rw [ids]
      intro id member
      rcases List.mem_append.mp member with before | last
      · exact still id before
      · rw [List.mem_singleton.mp last]
        exact ⟨_, entered⟩
    · -- what came in before stands at a position of the calls before
      rw [ids]
      refine List.pairwise_append.mpr ⟨stays, List.pairwise_singleton _ _, ?_⟩
      intro one member other last
      rw [List.mem_singleton.mp last]
      obtain ⟨position, earlier⟩ := represents.entered one member
      exact ⟨position, _, earlier.lt, earlier.concat (kept _), entered⟩

end Represents

/-! ## Any calls -/

theorem after_concat (calls : List (Call α)) (call : Call α) :
    after (calls ++ [call]) = ((after calls).perform call).2 := by
  rw [after, after, List.foldl_append]
  rfl

theorem perform_poisoned (call : Call α) :
    call.Refused (perform .poisoned call).1 ∧ (perform .poisoned call).2 = .poisoned := by
  cases call <;> exact ⟨rfl, rfl⟩

theorem perform_save_healthy (store : Store α) (item : α) :
    perform (.healthy store) (.save item) = (.brokenOff, .poisoned) ∨
      perform (.healthy store) (.save item) = (.saved, .healthy (store.save item)) := by
  by_cases breaks : Aggregate.breaksComparison item && !store.items.isEmpty
  · exact Or.inl (if_pos breaks)
  · exact Or.inr (if_neg breaks)

theorem BrokeOff.append {calls : List (Call α)} (brokeOff : BrokeOff calls)
    (more : List (Call α)) : BrokeOff (calls ++ more) := by
  obtain ⟨before, item, later, rfl, broken⟩ := brokeOff
  exact ⟨before, item, later ++ more, by simp, broken⟩

/-- After a save that broke off, the repository stays poisoned. -/
theorem BrokeOff.poisoned {calls : List (Call α)} (brokeOff : BrokeOff calls) :
    after calls = .poisoned := by
  obtain ⟨before, item, later, rfl, broken⟩ := brokeOff
  induction later using List.reverseRecOn with
  | nil =>
      rw [after_concat]
      rw [reply] at broken
      cases state : after before with
      | healthy store =>
          rw [state] at broken
          rcases perform_save_healthy store item with breaks | saves
          · rw [breaks]
          · rw [saves] at broken
            cases broken
      | poisoned => rfl
  | append_singleton later call ih =>
      rw [← List.cons_append, ← List.append_assoc, after_concat, ih]
      exact (perform_poisoned call).2

variable [LoggedAggregate α]

/-- After any calls the repository holds what they tell of, unless a save among them broke
off. -/
theorem after_cases (calls : List (Call α)) :
    BrokeOff calls ∨ ∃ store, after calls = .healthy store ∧ Represents calls store := by
  induction calls using List.reverseRecOn with
  | nil => exact Or.inr ⟨.empty, rfl, represents_empty⟩
  | append_singleton calls call ih =>
      rcases ih with brokeOff | ⟨store, healthy, represents⟩
      · exact Or.inl (brokeOff.append _)
      · rw [after_concat, healthy]
        cases call with
        | save item =>
            rcases perform_save_healthy store item with breaks | saves
            · refine Or.inl ⟨calls, item, [], rfl, ?_⟩
              rw [reply, healthy, breaks]
            · rw [saves]
              exact Or.inr ⟨_, rfl, represents.save item⟩
        | delete id => exact Or.inr ⟨_, rfl, represents.delete id⟩
        | find | obtain | all | size | isEmpty =>
            exact Or.inr ⟨_, rfl, represents.look rfl⟩

/-! ## The answers -/

/-- An object as it is held under an identity: it has no recorded events, and all the rest is
that of the object that was last saved. -/
def Held (calls : List (Call α)) (id : Identifier (Aggregate.kind α)) (item : α) : Prop :=
  ∃ saved, LastSaved calls saved ∧ Aggregate.id saved = id ∧
    LoggedAggregate.events item = .empty ∧
    LoggedAggregate.rest item = LoggedAggregate.rest saved

/-- The answers after calls, as those calls tell them. -/
structure Answers (calls : List (Call α)) : Prop where
  save : ∀ item, Aggregate.breaksComparison item = false →
    reply calls (.save item) = SaveOutcome.saved
  delete : ∀ id, reply calls (.delete id) = Except.ok ()
  find_held : ∀ id item, reply calls (.find id) = Except.ok (some item) ↔ Held calls id item
  find_none : ∀ id, reply calls (.find id) = Except.ok none ↔ ∀ item, ¬Held calls id item
  obtain_held : ∀ resource id item,
    reply calls (.obtain resource id) = Except.ok item ↔ Held calls id item
  obtain_none : ∀ resource id,
    reply calls (.obtain resource id) =
        Except.error (DomainError.notFound resource (some id.text)) ↔
      ∀ item, ¬Held calls id item
  all : ∃ items, reply calls .all = Except.ok items ∧
    (items.map Aggregate.id).Nodup ∧
    (∀ item, item ∈ items ↔ Held calls (Aggregate.id item) item) ∧
    (items.map Aggregate.id).Pairwise (EnteredBefore calls) ∧
    reply calls .size = Except.ok items.length ∧
    reply calls .isEmpty = Except.ok items.isEmpty
  others : ∀ call id items items', call.touched = some id →
    reply calls .all = Except.ok items →
    reply (calls ++ [call]) .all = Except.ok items' →
    items'.filter (fun item => Aggregate.id item ≠ id) =
      items.filter fun item => Aggregate.id item ≠ id

theorem held_iff (calls : List (Call α)) (id : Identifier (Aggregate.kind α)) (item : α) :
    Held calls id item ↔
      ∃ saved, LastSaved calls saved ∧ Aggregate.id saved = id ∧
        item = Aggregate.withoutEvents saved := by
  refine exists_congr fun saved => and_congr_right fun _ => and_congr_right fun _ => ?_
  constructor
  · rintro ⟨events, rest⟩
    apply LoggedAggregate.eq_of_parts
    · rw [events, LoggedAggregate.events_withoutEvents]
    · rw [rest, LoggedAggregate.rest_withoutEvents]
  · rintro rfl
    exact ⟨LoggedAggregate.events_withoutEvents saved, LoggedAggregate.rest_withoutEvents saved⟩

/-- A save or a delete leaves the other objects as and where they are. -/
theorem others_of_touched {store : Store α} {call : Call α}
    {id : Identifier (Aggregate.kind α)} (touched : call.touched = some id) {items : List α}
    (listed : (perform (.healthy store) call).2.all = .ok items) :
    items.filter (fun item => Aggregate.id item ≠ id) =
      store.items.filter fun item => Aggregate.id item ≠ id := by
  cases call with
  | save item =>
      obtain rfl := Option.some.inj touched
      rcases perform_save_healthy store item with breaks | saves
      · rw [breaks] at listed
        cases listed
      · rw [saves] at listed
        cases listed
        rw [← id_withoutEvents item]
        exact Store.others_place (Aggregate.withoutEvents item) store.items
  | delete other =>
      obtain rfl := Option.some.inj touched
      cases listed
      refine (List.filter_filter ..).trans (List.filter_congr fun item _ => ?_)
      by_cases same : Aggregate.id item = other <;> simp [same]
  | find | obtain | all | size | isEmpty => cases touched

theorem Represents.answers {calls : List (Call α)} {store : Store α}
    (represents : Represents calls store) (healthy : after calls = .healthy store) :
    Answers calls := by
  have found : ∀ id item, store.find? id = some item ↔ Held calls id item := fun id item =>
    (represents.find?_eq id item).trans (held_iff calls id item).symm
  have missing : ∀ id, store.find? id = none ↔ ∀ item, ¬Held calls id item := by
    intro id
    rw [Option.eq_none_iff_forall_ne_some]
    exact forall_congr' fun item => not_congr (found id item)
  have replied : ∀ call, reply calls call = (perform (.healthy store) call).1 := by
    intro call
    rw [reply, healthy]
  have listed : reply calls .all = Except.ok store.items := replied .all
  refine ⟨?save, ?delete, ?find_held, ?find_none, ?obtain_held, ?obtain_none, ?all, ?others⟩
  case save =>
    intro item compares
    rw [replied]
    refine congrArg Prod.fst (if_neg ?_)
    rw [compares]
    exact nofun
  case delete => exact fun id => replied (.delete id)
  case find_held =>
    intro id item
    rw [← found, replied]
    exact ⟨fun answer => Except.ok.inj answer, congrArg Except.ok⟩
  case find_none =>
    intro id
    rw [← missing, replied]
    exact ⟨fun answer => Except.ok.inj answer, congrArg Except.ok⟩
  case obtain_held =>
    intro resource id item
    rw [← found, replied]
    change store.obtain resource id = .ok item ↔ _
    rw [Store.obtain]
    cases store.find? id <;> simp
  case obtain_none =>
    intro resource id
    rw [← missing, replied]
    change store.obtain resource id = .error _ ↔ _
    rw [Store.obtain]
    cases store.find? id <;> simp
  case all =>
    refine ⟨store.items, listed, represents.distinct, fun item => ?_, represents.ordered,
      replied .size, replied .isEmpty⟩
    rw [← found]
    exact ⟨Store.find?_of_mem represents.distinct, fun answer => (Store.mem_of_find? answer).1⟩
  case others =>
    intro call id items items' touched before later
    cases listed.symm.trans before
    rw [reply, after_concat, healthy] at later
    exact others_of_touched touched later

/-- **A repository is a map in order of entry.**  After any calls to an empty repository, it
finds under each identity the object that was last saved and not deleted since, without its
recorded events; it lists just those objects, in the order in which their identities came in;
a save or a delete leaves the others as and where they are.  After a save that broke off, every
call is refused. -/
theorem answers_of_calls (calls : List (Call α)) :
    (¬BrokeOff calls → Answers calls) ∧
      (BrokeOff calls → ∀ call : Call α, call.Refused (reply calls call)) := by
  constructor
  · intro whole
    rcases after_cases calls with brokeOff | ⟨store, healthy, represents⟩
    · exact absurd brokeOff whole
    · exact represents.answers healthy
  · intro brokeOff call
    rw [reply, brokeOff.poisoned]
    exact (perform_poisoned call).1

def firstId : Identifier Sample.documentKind := ⟨"doc-1", rfl⟩

def secondId : Identifier Sample.documentKind := ⟨"doc-2", rfl⟩

def revision (id : Identifier Sample.documentKind) (title : String) (brittle : Bool) :
    Sample.Document :=
  ⟨id, title, EventLog.empty.recorded ⟨"note", "document.revised"⟩, brittle⟩

/-- Two documents are saved, one of them is saved again, deleted and saved once more. -/
def revisions : List (Call Sample.Document) :=
  [.save (revision firstId "draft" false), .save (revision secondId "other" false),
    .save (revision firstId "final" false), .delete firstId,
    .save (revision firstId "anew" false)]

/-- The deleted document comes in last.  One more save, which breaks off, ends all answers. -/
theorem answers_of_calls_revisions :
    Answers revisions ∧
      reply revisions .all = Except.ok [Aggregate.withoutEvents (revision secondId "other" false),
        Aggregate.withoutEvents (revision firstId "anew" false)] ∧
      ∀ call : Call Sample.Document,
        call.Refused (reply (revisions ++ [.save (revision secondId "" true)]) call) := by
  refine ⟨(answers_of_calls revisions).1 fun brokeOff => ?_, rfl, (answers_of_calls _).2 ?_⟩
  · cases brokeOff.poisoned
  · exact ⟨revisions, _, [], rfl, rfl⟩

end Repository

end Cqrs
