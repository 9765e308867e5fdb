/-
# Proofs.Bank.Wiring -- a bank whose orders reach their handlers

A bank is wired when each of its orders is registered and bound to its own handler, when
whoever is subscribed to the events of accounts takes them quietly and succeeds, and when its
accounts came about by saving them (`Wired`).  The bank is wired as it is assembled
(`assemble_wired`) and stays so when more handlers are attached (`Wired.attach`).

In a wired bank an order is given to its handler, which either is done with an error and
leaves the accounts alone, or books the order and publishes one event for each record that it
adds to an account (`dispatch_cases`).
-/
import Cqrs.Bank.Audit
import Cqrs.Proofs.Bank.Execution

namespace Cqrs.Bank

set_option autoImplicit false

/-! ## Records -/

/-- A record that an account keeps of a transaction. -/
structure Entry where
  account : AccountId
  transaction : Transaction
deriving DecidableEq

/-- The line of an order that the entry is the record of. -/
def Entry.line (entry : Entry) : Line where
  account := entry.account.text
  kind := entry.transaction.kind
  amount := entry.transaction.amount.amount
  currency := entry.transaction.amount.currency.code

def Entry.AnnouncedBy (entry : Entry) : BankEvent → Prop
  | .account event => event.Announces entry.account entry.transaction
  | .foreign _ _ => False

def Posting.entry (posting : Posting) : Entry := ⟨posting.before.id, posting.transaction⟩

def recordsOf (id : AccountId) (store : Store Account) : List Transaction :=
  ((store.find? id).map Account.transactions).getD []

def entriesOf (id : AccountId) (entries : List Entry) : List Transaction :=
  (entries.filter (·.account = id)).map Entry.transaction

theorem entriesOf_append (id : AccountId) (first second : List Entry) :
    entriesOf id (first ++ second) = entriesOf id first ++ entriesOf id second := by
  simp only [entriesOf, List.filter_append, List.map_append]

/-- The account of a posting keeps one more record, and all others keep what they kept. -/
theorem Posting.save_records (posting : Posting) {store : Store Account}
    (loaded : store.find? posting.before.id = some posting.before) (id : AccountId) :
    recordsOf id (store.save posting.after) =
      recordsOf id store ++ entriesOf id [posting.entry] := by
  have moves := posting.moves
  have found : (store.save posting.after).find? id =
      if posting.after.id = id then some posting.after.withoutEvents else store.find? id :=
    Store.find?_save store posting.after id
  unfold recordsOf
  rw [found, moves.id]
  by_cases same : posting.before.id = id
  · subst same
    have kept : posting.after.withoutEvents.transactions = posting.after.transactions := rfl
    simp [loaded, entriesOf, Posting.entry, kept, moves.transactions]
  · simp [entriesOf, Posting.entry, same]

/-- Postings add their entries to the records, and nothing else. -/
theorem Books.records {postings : List Posting} {before after : Store Account}
    (books : Books postings before after) (id : AccountId) :
    recordsOf id after = recordsOf id before ++ entriesOf id (postings.map Posting.entry) := by
  induction postings generalizing before with
  | nil =>
      rw [books.saved]
      exact (List.append_nil _).symm
  | cons posting rest ih =>
      obtain ⟨loaded, later⟩ := books.uncons
      rw [ih later, posting.save_records loaded, List.append_assoc, ← entriesOf_append]
      rfl

/-- Accounts are stored without events, so a posting announces its own event and no earlier
one. -/
theorem Books.events {postings : List Posting} {before after : Store Account}
    (books : Books postings before after) (built : before.Built) :
    postings.flatMap (·.after.events.events) = postings.map Posting.event := by
  have own : ∀ posting ∈ postings, posting.after.events.events = [posting.event] := by
    intro posting member
    obtain ⟨saved, clean⟩ := built.clean (Store.mem_of_find? (books.loaded posting member)).1
    have none : posting.before.events.events = [] := by
      rw [clean]
      rfl
    rw [posting.moves.events, none, List.nil_append]
  clear books
  induction postings with
  | nil => rfl
  | cons posting rest ih =>
      rw [List.flatMap_cons, own posting (List.mem_cons_self ..),
        ih fun other member => own other (List.mem_cons_of_mem _ member)]
      rfl

/-- The events of postings tell of their entries, one by one. -/
theorem Posting.announced (postings : List Posting) :
    List.Forall₂ Entry.AnnouncedBy (postings.map Posting.entry)
      ((postings.map Posting.event).map BankEvent.account) := by
  induction postings with
  | nil => exact .nil
  | cons posting rest ih => exact .cons posting.moves.announces ih

/-! ## Wiring -/

/-- A bank whose orders reach their own handlers and whose events are taken by handlers that
are quiet about the accounts and succeed. -/
structure Wired (broker : Broker application) : Prop where
  orders : ∀ order : Order, ∃ handler handle,
    broker.commands.get? order.kind = some handler ∧
      broker.container.get? handler = some (.command order.kind handle) ∧
      ∀ context, handle context order.payload = order.handle context
  received : ∀ event : AccountEvent, ∀ handler ∈ broker.subscribers event.change.eventType,
    broker.Receives BankState.accounts (.account event) handler
  built : broker.state.accounts.Built

/-- An announcement is quiet and succeeds at every event of an account. -/
theorem announce_receives (eventType : String) (event : AccountEvent) :
    (announce eventType (.account event)).Only (Effect.Quiet BankState.accounts) ∧
      (announce eventType (.account event)).Succeeds := by
  by_cases same : event.change.eventType = eventType
  · simp only [announce, if_pos same]
    exact ⟨⟨trivial, fun _ => trivial⟩, fun _ => rfl⟩
  · simp only [announce, if_neg same]
    exact ⟨trivial, rfl⟩

theorem assemble_wired {state : BankState} (built : state.accounts.Built) :
    Wired (assemble state) where
  orders order := by
    cases order with
    | deposit order =>
        exact ⟨depositHandler, handleDeposit, rfl, rfl, fun _ => rfl⟩
    | withdraw order =>
        exact ⟨withdrawHandler, handleWithdraw, rfl, rfl, fun _ => rfl⟩
    | transfer order =>
        exact ⟨transferHandler, handleTransfer, rfl, rfl, fun _ => rfl⟩
  received event handler subscribed := by
    have announcer : ∃ entry ∈ announcers, handler = entry.1 := by
      unfold Broker.subscribers at subscribed
      obtain ⟨entry, member, rfl⟩ := List.mem_map.mp subscribed
      have inList : entry ∈ announcers.map fun entry => (entry.2, entry.1) :=
        (List.mem_filter.mp member).1
      obtain ⟨announcer, among, rfl⟩ := List.mem_map.mp inList
      exact ⟨announcer, among, rfl⟩
    obtain ⟨entry, among, rfl⟩ := announcer
    have bound : (assemble state).container.get? entry.1 = some (.event (announce entry.2)) := by
      simp only [announcers, List.mem_cons, List.not_mem_nil, or_false] at among
      rcases among with rfl | rfl | rfl | rfl
      · rfl
      · rfl
      · rfl
      · rfl
    exact ⟨_, bound, announce_receives entry.2 event⟩
  built := built

/-- A broker with one more handler of events, bound under an id and subscribed to some types. -/
def attach (broker : Broker application) (id : String)
    (handle : BankEvent → Reaction application) (eventTypes : List String) :
    Broker application :=
  eventTypes.foldl (fun broker eventType => broker.subscribe eventType id)
    (broker.bind id (.event handle))

theorem get?_bind_fresh {broker : Broker application} {id other : String}
    {handle : BankEvent → Reaction application} {binding : Binding application}
    (fresh : broker.container.get? id = none)
    (bound : broker.container.get? other = some binding) :
    (broker.bind id (.event handle)).container.get? other = some binding := by
  have apart : id ≠ other := by
    intro same
    rw [same, bound] at fresh
    cases fresh
  simp only [Broker.bind, Table.get?_put, if_neg apart, bound]

theorem Wired.subscribe {broker : Broker application} (wired : Wired broker) {id : String}
    (receives : ∀ event : AccountEvent,
      broker.Receives BankState.accounts (.account event) id) (eventType : String) :
    Wired (broker.subscribe eventType id) where
  orders := wired.orders
  received event handler subscribed := by
    unfold Broker.subscribers Broker.subscribe at subscribed
    rw [List.filter_append, List.map_append] at subscribed
    rcases List.mem_append.mp subscribed with before | added
    · exact wired.received event handler before
    · obtain ⟨entry, member, rfl⟩ := List.mem_map.mp added
      rw [List.mem_singleton.mp (List.mem_filter.mp member).1]
      exact receives event
  built := wired.built

/-- One more handler may be attached under an id of its own, if it takes the events of accounts
quietly and succeeds. -/
theorem Wired.attach {broker : Broker application} (wired : Wired broker) {id : String}
    {handle : BankEvent → Reaction application} (fresh : broker.container.get? id = none)
    (receives : ∀ event : AccountEvent,
      (handle (.account event)).Only (Effect.Quiet BankState.accounts) ∧
        (handle (.account event)).Succeeds) (eventTypes : List String) :
    Wired (attach broker id handle eventTypes) := by
  have bound : Wired (broker.bind id (.event handle)) := by
    refine ⟨fun order => ?_, fun event handler subscribed => ?_, wired.built⟩
    · obtain ⟨handler, own, registered, there, same⟩ := wired.orders order
      exact ⟨handler, own, registered, get?_bind_fresh fresh there, same⟩
    · obtain ⟨other, there, reacts⟩ := wired.received event handler subscribed
      exact ⟨other, get?_bind_fresh fresh there, reacts⟩
  have all : ∀ (broker : Broker application), Wired broker →
      broker.container.get? id = some (.event handle) →
      Wired (eventTypes.foldl (fun broker eventType => broker.subscribe eventType id) broker) := by
    induction eventTypes with
    | nil => exact fun broker wired _ => wired
    | cons eventType rest ih =>
        intro broker wired there
        exact ih _ (wired.subscribe (fun event => ⟨handle, there, receives event⟩) eventType) there
  refine all _ bound ?_
  simp only [Broker.bind, Table.get?_put, if_true]

/-- The bank is wired with an auditor, too. -/
theorem audited_wired {broker : Broker application} (wired : Wired broker)
    (fresh : broker.container.get? auditHandler = none) : Wired (audited broker) := by
  show Wired (Bank.attach broker auditHandler
    (fun event => .perform (.note (auditLine event)) fun _ => .done (.ok ()))
    BalanceChange.eventTypes)
  refine wired.attach fresh (fun event => ?_) _
  exact ⟨⟨trivial, fun _ => trivial⟩, fun _ => rfl⟩

/-! ## Orders -/

/-- What a wired bank does with an order that comes with an event bus. -/
theorem dispatch_cases {broker : Broker application} (wired : Wired broker) (depth : Nat)
    {context : Context} {bus : BusId} (present : context.events = some bus) (order : Order) :
    ∃ handler,
      (∃ error, Broker.dispatch depth context order.kind order.payload broker =
        (some (.error error), (broker.record (.handled handler order.kind order.payload)).record
          (.completed handler order.kind order.payload (.error error)))) ∨
      ∃ postings next, Books postings broker.state.accounts next.accounts ∧
        postings.map Posting.line = order.lines ∧
        Broker.dispatch depth context order.kind order.payload broker =
          (some (.ok ()), (Broker.publish
            { broker.record (.handled handler order.kind order.payload) with state := next } bus
            ((postings.map Posting.event).map .account)).record
              (.completed handler order.kind order.payload (.ok ()))) := by
  obtain ⟨handler, handle, registered, bound, own⟩ := wired.orders order
  refine ⟨handler, ?_⟩
  have started : Broker.dispatch depth context order.kind order.payload broker =
      ((order.handle context).run (Broker.flush depth)).bind
        (Broker.complete handler order.kind order.payload)
        (broker.record (.handled handler order.kind order.payload)) := by
    simp only [Broker.dispatch, registered, Broker.resolve, bound, Binding.asCommand?]
    rw [← own context]
    rfl
  rw [started]
  rcases order.handle_run context (Broker.flush depth)
      (broker.record (.handled handler order.kind order.payload)) with
    ⟨error, ran⟩ | ⟨other, events, next, there, decided, ran⟩
  · exact Or.inl ⟨error, Act.bind_of_some ran⟩
  · rw [present] at there
    cases there
    obtain ⟨postings, executed, -, rfl⟩ := Order.decide_executed decided
    rw [Posting.recorded_eq, executed.books.events wired.built] at ran
    exact Or.inr ⟨postings, next, executed.books, executed.lines, Act.bind_of_some ran⟩

end Cqrs.Bank
