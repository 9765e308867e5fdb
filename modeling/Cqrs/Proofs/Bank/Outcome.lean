/-
# Proofs.Bank.Outcome -- what a handler of orders makes of any order

The handler of an order is refused with the error of the first ground that holds, out of a fixed
row of grounds, and leaves everything as it was.  Where no ground holds it succeeds, and its effect
is exact: each line of the order has moved the account that it names, in its place and by the
amount of the line, all other accounts are as they were, and the events of the accounts that moved
are what is published.

* `Executed.leaves` -- every account keeps its place, and is moved or as it was;
* `Verdict.error_iff` -- the handler fails with the error of the first ground that holds;
* `order_outcome` -- both sides, for any store with distinct identifiers.
-/
import Cqrs.Proofs.Bank.Atomicity
import Cqrs.Proofs.Bank.Commuting
import Cqrs.Proofs.Bank.Grounds

namespace Cqrs.Bank

set_option autoImplicit false

/-! ## What is left behind -/

/-- The account is that of a posting and is stored as this leaves it, or the order does not name it
and it is stored as it was. -/
def Order.Leaves (order : Order) (postings : List Posting) (account stored : Account) : Prop :=
  (∃ posting ∈ postings, account = posting.before ∧ stored = posting.after.withoutEvents) ∨
    ¬order.Names account.id ∧ stored = account

/-- Accounts without events record one event for each posting. -/
theorem Posting.recorded_of_clean {postings : List Posting}
    (clean : ∀ posting ∈ postings, posting.before.events.events = []) :
    recorded postings = postings.map (·.event) := by
  induction postings with
  | nil => rfl
  | cons posting rest ih =>
      have later := ih fun other member => clean other (List.mem_cons_of_mem _ member)
      unfold recorded at later ⊢
      rw [List.flatMap_cons, List.map_cons, later, clean posting (List.mem_cons_self ..)]
      rfl

/-- An account that is saved is found as the posting leaves it. -/
theorem Books.find?_own {postings : List Posting} {before after : Store Account}
    (books : Books postings before after) {posting : Posting} (member : posting ∈ postings) :
    after.find? posting.before.id = some posting.after.withoutEvents := by
  induction postings generalizing before with
  | nil => cases member
  | cons first rest ih =>
      obtain ⟨-, later⟩ := books.uncons
      rcases List.mem_cons.mp member with rfl | inRest
      · have once : posting.before.id ∉ rest.map (·.before.id) :=
          (List.nodup_cons.mp books.distinct).1
        have apart : ∀ other ∈ rest, other.before.id ≠ posting.before.id := by
          intro other listed same
          exact once (List.mem_map.mpr ⟨other, listed, same⟩)
        rw [later.others apart]
        exact find?_save_own before posting.moves.id
      · exact ih later inRest

namespace Executed

variable {order : Order} {before after : Store Account} {postings : List Posting}

/-- An account that the order names is that of one of its postings. -/
theorem posting_of_names (executed : Executed order before after postings) {id : AccountId}
    (named : order.Names id) : ∃ posting ∈ postings, posting.before.id = id := by
  have listed : ∃ line ∈ postings.map Posting.line, line.account = id.text := by
    rw [executed.lines]
    cases order with
    | deposit | withdraw => exact ⟨_, List.mem_cons_self .., named.symm⟩
    | transfer order =>
        rcases named with source | target
        · exact ⟨_, List.mem_cons_self .., source.symm⟩
        · exact ⟨_, List.mem_cons_of_mem _ (List.mem_cons_self ..), target.symm⟩
  obtain ⟨line, member, own⟩ := listed
  obtain ⟨posting, listed, rfl⟩ := List.mem_map.mp member
  exact ⟨posting, listed, id_of_text own rfl⟩

/-- Every account keeps its place, and is moved or as it was. -/
theorem leaves (executed : Executed order before after postings)
    (distinct : (before.items.map Account.id).Nodup) :
    List.Forall₂ (order.Leaves postings) before.items after.items := by
  refine Store.forall₂_of_find? executed.books.conserves.ids.symm distinct ?_
  intro id account stored held found
  by_cases named : order.Names id
  · obtain ⟨posting, member, rfl⟩ := executed.posting_of_names named
    have loaded := executed.books.loaded posting member
    exact Or.inl ⟨posting, member, Option.some.inj (held.symm.trans loaded),
      Option.some.inj (found.symm.trans (executed.books.find?_own member))⟩
  · obtain rfl := (Store.mem_of_find? held).2
    rw [executed.books.unnamed executed.lines named, held] at found
    exact Or.inr ⟨named, (Option.some.inj found).symm⟩

theorem recorded_of_clean (executed : Executed order before after postings)
    (clean : ∀ account ∈ before.items, account.events.events = []) :
    Posting.recorded postings = postings.map (·.event) :=
  Posting.recorded_of_clean fun posting member =>
    clean _ (Store.mem_of_find? (executed.books.loaded posting member)).1

end Executed

/-! ## Handlers -/

namespace Verdict

variable {context : Context} {order : Order} {broker : Broker application}
  {run : Option (Except AppError Unit) × Broker application}

/-- The handler fails with the error of the first ground that holds. -/
theorem error_iff (verdict : Verdict context order broker run)
    (distinct : (broker.state.accounts.items.map Account.id).Nodup) (error : AppError) :
    run.1 = some (.error error) ↔ First error (order.grounds context broker.state.accounts) := by
  have settled := order.decide_settles distinct error
  cases verdict with
  | busless missing =>
      have only : ∀ other, Ground.busless context other → other = .missingEventBus :=
        fun _ holds => holds.2
      rw [Order.grounds, First.head_iff ⟨missing, rfl⟩ only]
      constructor
      · rintro ⟨⟩
        rfl
      · rintro rfl
        rfl
  | refused present decided =>
      rw [Order.first_ground_iff present, settled, decided]
      constructor
      · rintro ⟨⟩
        exact ⟨_, rfl, rfl⟩
      · rintro ⟨failure, same, rfl⟩
        cases same
        rfl
  | carriedOut present decided =>
      rw [Order.first_ground_iff present, settled, decided]
      constructor
      · rintro ⟨⟩
      · rintro ⟨failure, impossible, -⟩
        cases impossible

theorem ok_iff (verdict : Verdict context order broker run) :
    run.1 = some (.ok ()) ↔ ∀ error, run.1 ≠ some (.error error) := by
  cases verdict with
  | busless | refused =>
      constructor
      · rintro ⟨⟩
      · intro none
        exact absurd rfl (none _)
  | carriedOut => exact ⟨fun _ => nofun, fun _ => rfl⟩

/-- A handler that did not succeed has changed nothing. -/
theorem unchanged (verdict : Verdict context order broker run) (failed : run.1 ≠ some (.ok ())) :
    run.2 = broker := by
  cases verdict with
  | busless | refused => rfl
  | carriedOut => exact absurd rfl failed

end Verdict

/-- **The outcome of an order.**  The store may hold any accounts with distinct identifiers, and
the request may have any context.  The handler fails exactly with the error of the first ground
that holds, and then nothing has changed; it succeeds exactly where no ground holds.  Then each
line of the order was carried out on the account that it names, which keeps its place, all other
accounts are as they were, and all that changed besides is that the recorded events were published:
one for each line where the stored accounts had none. -/
theorem order_outcome (order : Order) (context : Context)
    (flush : BusId → Act application (Except AppError Unit)) (broker : Broker application)
    (distinct : (broker.state.accounts.items.map Account.id).Nodup) :
    let accounts := broker.state.accounts
    let run := (order.handle context).run flush broker
    (∀ error, run.1 = some (.error error) ↔ First error (order.grounds context accounts)) ∧
    (run.1 = some (.ok ()) ↔ ∀ ground ∈ order.grounds context accounts, ∀ error, ¬ground error) ∧
    (run.1 ≠ some (.ok ()) → run.2 = broker) ∧
    (run.1 = some (.ok ()) → ∃ bus postings, context.events = some bus ∧
      Executed order accounts run.2.state.accounts postings ∧
      List.Forall₂ (order.Leaves postings) accounts.items run.2.state.accounts.items ∧
      run.2 = Broker.publish { broker with state := run.2.state } bus
        ((Posting.recorded postings).map .account) ∧
      (∀ other, run.2.buffer other = if bus = other then
        broker.buffer bus ++ (Posting.recorded postings).map .account else broker.buffer other) ∧
      ((∀ account ∈ accounts.items, account.events.events = []) →
        Posting.recorded postings = postings.map (·.event))) := by
  intro accounts run
  have verdict : Verdict context order broker run := order.handle_verdict context flush broker
  refine ⟨verdict.error_iff distinct, ?_, verdict.unchanged, fun succeeded => ?_⟩
  · rw [verdict.ok_iff, ← First.none_iff]
    exact forall_congr' fun error => not_congr (verdict.error_iff distinct error)
  · generalize run = result at verdict succeeded
    cases verdict with
    | busless | refused => cases succeeded
    | @carriedOut bus events next present decided =>
        obtain ⟨postings, executed, -, rfl⟩ := Order.decide_executed decided
        exact ⟨bus, postings, present, executed, executed.leaves distinct, rfl,
          fun other => broker.buffer_put bus other _, executed.recorded_of_clean⟩

theorem order_outcome_smallBank :
    let broker := assemble smallBank
    let context := ({} : Context).withEvents Broker.mainBus
    let run := (smallTransfer.handle context).run (Broker.flush 1) broker
    (smallBank.accounts.items.map Account.id).Nodup ∧ run.1 = some (.ok ()) ∧
      ∃ postings, Executed smallTransfer smallBank.accounts run.2.state.accounts postings ∧
        run.2.buffer Broker.mainBus =
          broker.buffer Broker.mainBus ++ (postings.map (·.event)).map .account := by
  intro broker context run
  have distinct : (broker.state.accounts.items.map Account.id).Nodup := by decide +kernel
  have succeeded : run.1 = some (.ok ()) := by decide +kernel
  have clean : ∀ account ∈ smallBank.accounts.items, account.events.events = [] := by
    decide +kernel
  have outcome := order_outcome smallTransfer context (Broker.flush 1) broker distinct
  obtain ⟨bus, postings, present, executed, -, -, buffers, single⟩ := outcome.2.2.2 succeeded
  refine ⟨distinct, succeeded, postings, executed, ?_⟩
  cases present
  rw [buffers, if_pos rfl, single clean]

end Cqrs.Bank
