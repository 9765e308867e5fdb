/-
# Proofs.Bank.Conservation -- no money is made or lost

Whatever orders come in, on whatever command buses, the balances in a currency sum up to what
they were before, with the deposits that succeeded added and the withdrawals that succeeded
taken away.  Transfers count for nothing.  An order succeeded when its handler did, and the
history tells (`paidIn`, `paidOut`); whether its events were delivered or its session was
committed does not matter, and nothing is undone by a rollback.

* `Books.conserves` -- the postings of one order move the totals by its lines;
* `Bookkeeping` -- what orders book is all that ever reaches the accounts, however it is counted:
  an order given to its handler (`Bookkeeping.containerDispatch`), or going through any stack of
  layers (`Bookkeeping.carryOut`);
* `money_conserved` -- so any orders in a row keep the totals.

The handlers of events may do what they like but change the accounts (`KeepsAccounts`).
-/
import Cqrs.Bank.Audit
import Cqrs.Proofs.Bank.Execution
import Cqrs.Proofs.Growth
import Mathlib.Algebra.BigOperators.Group.List.Basic
import Mathlib.Algebra.Ring.Int.Defs

namespace Cqrs.Bank

set_option autoImplicit false

/-! ## Totals -/

/-- The exact sum of the balances in a currency. -/
def total (currency : Currency) (store : Store Account) : Int :=
  ((store.items.filter (·.balance.currency = currency)).map (·.balance.amount.toInt)).sum

/-- The accounts of a store in order, each with its currency. -/
def roster (store : Store Account) : List (AccountId × Currency) :=
  store.items.map fun account => (account.id, account.balance.currency)

/-- The totals moved by so much in each currency, and the accounts stayed the same ones. -/
structure Conserves (net : Currency → Int) (before after : Store Account) : Prop where
  total : ∀ currency, total currency after = total currency before + net currency
  roster : roster after = roster before

theorem Conserves.refl (store : Store Account) : Conserves (fun _ => 0) store store where
  total _ := (Int.add_zero _).symm
  roster := rfl

theorem Conserves.trans {first second : Currency → Int} {a b c : Store Account}
    (one : Conserves first a b) (two : Conserves second b c) :
    Conserves (fun currency => first currency + second currency) a c where
  total currency := by rw [two.total, one.total, Int.add_assoc]
  roster := two.roster.trans one.roster

theorem Conserves.ids {net : Currency → Int} {before after : Store Account}
    (conserves : Conserves net before after) :
    after.items.map Account.id = before.items.map Account.id := by
  have ids := congrArg (List.map Prod.fst) conserves.roster
  simpa only [Bank.roster, List.map_map, Function.comp_def] using ids

/-- The account of a posting takes its own place when it is saved. -/
theorem Posting.save_split (posting : Posting) {store : Store Account}
    (loaded : store.find? posting.before.id = some posting.before) :
    ∃ front back, store.items = front ++ posting.before :: back ∧
      (store.save posting.after).items = front ++ posting.after.withoutEvents :: back := by
  have stored : store.items.find? (fun other => Aggregate.id other ==
      Aggregate.id posting.after.withoutEvents) = some posting.before := by
    show store.items.find? (fun other => other.id == posting.after.id) = _
    rw [posting.moves.id]
    exact loaded
  obtain ⟨front, back, split, placed, _⟩ := Store.place_split stored
  exact ⟨front, back, split, placed⟩

theorem Posting.net_eq (posting : Posting) (currency : Currency) :
    posting.line.net currency =
      if posting.before.balance.currency = currency then posting.transaction.signed else 0 := by
  unfold Line.net Transaction.signed line
  simp only [posting.moves.inCurrency]
  by_cases same : posting.transaction.amount.currency = currency
  · simp only [same, if_true]
  · have apart : posting.transaction.amount.currency.code ≠ currency.code :=
      fun codes => same (Currency.code_injective codes)
    simp only [same, apart, if_false]

/-- Saving the account of a posting moves the totals by the posting's line. -/
theorem Posting.save_conserves (posting : Posting) {store : Store Account}
    (loaded : store.find? posting.before.id = some posting.before) :
    Conserves posting.line.net store (store.save posting.after) := by
  have moves := posting.moves
  have owner : posting.after.withoutEvents.id = posting.before.id := moves.id
  have kept : posting.after.withoutEvents.balance = posting.after.balance := rfl
  obtain ⟨front, back, split, saved⟩ := posting.save_split loaded
  refine ⟨fun currency => ?_, ?_⟩
  · unfold Bank.total
    rw [posting.net_eq, saved, split]
    by_cases same : posting.before.balance.currency = currency
    · simp only [List.filter_append, List.filter_cons, kept, moves.currency, same, decide_true,
        if_true, List.map_append, List.map_cons, List.sum_append, List.sum_cons, moves.amount]
      omega
    · simp only [List.filter_append, List.filter_cons, kept, moves.currency, same, decide_false,
        if_false, Bool.false_eq_true, Int.add_zero]
  · unfold Bank.roster
    rw [saved, split]
    simp only [List.map_append, List.map_cons, kept, moves.currency, owner]

/-- Postings move the totals by their lines, and each account stays what and where it is. -/
theorem Books.conserves {postings : List Posting} {before after : Store Account}
    (books : Books postings before after) :
    Conserves (fun currency => ((postings.map Posting.line).map (·.net currency)).sum)
      before after := by
  induction postings generalizing before with
  | nil =>
      rw [books.saved]
      exact .refl before
  | cons posting rest ih =>
      obtain ⟨loaded, later⟩ := books.uncons
      exact (posting.save_conserves loaded).trans (ih later)

/-! ## Orders -/

/-- What an order counts for in a currency. -/
def MoneyOrder.amountIn (currency : Currency) (order : MoneyOrder) : Int :=
  if order.currency = currency.code then order.amount.toInt else 0

/-- What the deposits paid in whose handler succeeded. -/
def paidIn (currency : Currency) (history : List (Activity application)) : Int :=
  (history.map fun
    | .completed _ .deposit order (.ok ()) => MoneyOrder.amountIn currency order
    | _ => 0).sum

/-- What the withdrawals paid out whose handler succeeded. -/
def paidOut (currency : Currency) (history : List (Activity application)) : Int :=
  (history.map fun
    | .completed _ .withdraw order (.ok ()) => MoneyOrder.amountIn currency order
    | _ => 0).sum

theorem paidIn_append (currency : Currency) (first second : List (Activity application)) :
    paidIn currency (first ++ second) = paidIn currency first + paidIn currency second := by
  simp only [paidIn, List.map_append, List.sum_append]

theorem paidOut_append (currency : Currency) (first second : List (Activity application)) :
    paidOut currency (first ++ second) = paidOut currency first + paidOut currency second := by
  simp only [paidOut, List.map_append, List.sum_append]

/-- The lines of an order come to what its success counts for. -/
theorem Order.net_lines (order : Order) (handler : String) (currency : Currency) :
    (order.lines.map (·.net currency)).sum =
      paidIn currency [.completed handler order.kind order.payload (.ok ())] -
        paidOut currency [.completed handler order.kind order.payload (.ok ())] := by
  simp only [paidIn, paidOut, List.map_cons, List.map_nil, List.sum_cons, List.sum_nil]
  cases order with
  | deposit order =>
      simp only [lines, List.map_cons, List.map_nil, List.sum_cons, List.sum_nil, Line.net, kind,
        payload, MoneyOrder.amountIn]
      omega
  | withdraw order =>
      simp only [lines, List.map_cons, List.map_nil, List.sum_cons, List.sum_nil, Line.net, kind,
        payload, MoneyOrder.amountIn]
      by_cases same : order.currency = currency.code
      · rw [if_pos same, if_pos same]
        omega
      · rw [if_neg same, if_neg same]
        omega
  | transfer order =>
      simp only [lines, List.map_cons, List.map_nil, List.sum_cons, List.sum_nil, Line.net, kind,
        payload]
      by_cases same : order.currency = currency.code
      · rw [if_pos same, if_pos same]
        omega
      · rw [if_neg same, if_neg same]
        omega

/-! ## Handlers -/

/-- Effects that leave the accounts as they are. -/
def KeepsAccounts : Effect application → Prop
  | .update change => ∀ state, (change state).accounts = state.accounts
  | _ => True

/-- What is bound is no handler of the bank's orders but its own, and no handler of events that
changes the accounts. -/
def Suits : Binding application → Prop
  | .command kind handle =>
      ∀ (order : Order) (same : order.kind = kind) (context : Context),
        handle context (same ▸ order.payload) = order.handle context
  | .event handle => ∀ event, (handle event).Only KeepsAccounts
  | .query _ _ | .text _ | .number _ | .object => True

/-- All that is bound in the broker suits the bank. -/
def Staffed (broker : Broker application) : Prop :=
  ∀ id binding, broker.container.get? id = some binding → Suits binding

theorem Staffed.events {broker : Broker application} (staffed : Staffed broker) :
    broker.EventsOnly KeepsAccounts :=
  fun id handle bound => staffed id (.event handle) bound

theorem Staffed.of_bindsWithin {before after : Broker application} (staffed : Staffed before)
    (within : after.BindsWithin before) : Staffed after :=
  fun id binding bound => staffed id binding (within id binding bound)

/-- What a staffed bank does with an order, and likewise any broker with the same bindings and
registrations: there is no handler for it, or the bank's own handler is given it. -/
theorem Staffed.dispatch_cases {broker : Broker application} (staffed : Staffed broker)
    (depth : Nat) (context : Context) (order : Order) :
    (∃ error notes, ∀ other : Broker application, other.commands = broker.commands →
      other.container = broker.container →
        Broker.dispatch depth context order.kind order.payload other =
          (some (.error error),
            { other with history := other.history ++ List.map .logged notes })) ∨
    ∃ handler, ∀ other : Broker application, other.commands = broker.commands →
      other.container = broker.container →
        Broker.dispatch depth context order.kind order.payload other =
          ((order.handle context).run (Broker.flush depth)).bind
            (Broker.complete handler order.kind order.payload)
            (other.record (.handled handler order.kind order.payload)) := by
  -- without a handler the answer is an error, and at most a warning is noted
  have unhandled : ∀ {other : Broker application} {error : AppError},
      Broker.dispatch depth context order.kind order.payload other =
        (some (.error error), other) →
      Broker.dispatch depth context order.kind order.payload other = (some (.error error),
        { other with history := other.history ++ List.map .logged [] }) := by
    intro other error told
    rw [told, List.map_nil, List.append_nil]
  cases registered : broker.commands.get? order.kind with
  | none =>
      let warning : LogRecord := ⟨.warn, "no command handler registered",
        [("command", .text order.kind.name)]⟩
      refine Or.inl ⟨.handlerNotFound .command order.kind.name, [warning],
        fun other commands _ => ?_⟩
      have told : Broker.dispatch depth context order.kind order.payload other =
          (some (.error (.handlerNotFound .command order.kind.name)),
            other.record (.logged warning)) := by
        simp only [Broker.dispatch, commands, registered]
        rfl
      exact told
  | some handler =>
      cases bound : broker.container.get? handler with
      | none =>
          refine Or.inl ⟨.unresolved handler "no instance bound", [],
            fun other commands container => unhandled ?_⟩
          simp only [Broker.dispatch, commands, registered, Broker.resolve, container, bound]
      | some binding =>
          cases fits : binding.asCommand? order.kind with
          | none =>
              refine Or.inl ⟨.invalidHandler .command order.kind.name, [],
                fun other commands container => unhandled ?_⟩
              simp only [Broker.dispatch, commands, registered, Broker.resolve, container, bound,
                fits]
          | some handle =>
              obtain rfl := Binding.asCommand?_eq_some fits
              have own : handle context order.payload = order.handle context :=
                staffed handler _ bound order rfl context
              refine Or.inr ⟨handler, fun other commands container => ?_⟩
              simp only [Broker.dispatch, commands, registered, Broker.resolve, container, bound,
                fits, own]

theorem announce_keepsAccounts (eventType : String) (event : BankEvent) :
    (announce eventType event).Only KeepsAccounts := by
  cases event with
  | account event =>
      by_cases same : event.change.eventType = eventType
      · simp only [announce, if_pos same]
        exact ⟨trivial, fun _ => trivial⟩
      · simp only [announce, if_neg same]
        trivial
  | foreign id other => trivial

/-- What holds of the bank's own handlers holds of all that is bound when it is assembled. -/
theorem assemble_bound {P : Binding application → Prop}
    (deposit : P (.command .deposit handleDeposit))
    (withdraw : P (.command .withdraw handleWithdraw))
    (transfer : P (.command .transfer handleTransfer))
    (status : P (.query .status fun _ question => answerStatus question))
    (announcer : ∀ eventType, P (.event (announce eventType))) (state : BankState) :
    ∀ id binding, (assemble state).container.get? id = some binding → P binding := by
  have bind : ∀ (broker : Broker application) (id : String) (binding : Binding application),
      (∀ id binding, broker.container.get? id = some binding → P binding) → P binding →
      ∀ other found, (broker.bind id binding).container.get? other = some found → P found := by
    intro broker id binding all own other found bound
    simp only [Broker.bind, Table.get?_put] at bound
    split at bound
    · cases bound
      exact own
    · exact all other found bound
  have announced : ∀ (entries : List (String × String)) (broker : Broker application),
      (∀ id binding, broker.container.get? id = some binding → P binding) →
      ∀ id binding, (entries.foldl (fun broker entry =>
        broker.bind entry.1 (.event (announce entry.2))) broker).container.get? id =
          some binding → P binding := by
    intro entries
    induction entries with
    | nil => exact fun broker all => all
    | cons entry rest ih => exact fun broker all => ih _ (bind _ _ _ all (announcer entry.2))
  refine announced announcers _ (bind _ _ _ (bind _ _ _ (bind _ _ _ (bind _ _ _ ?_ deposit)
    withdraw) transfer) status)
  intro id binding bound
  cases bound

/-- The bank is staffed as it is assembled, whatever its accounts. -/
theorem assemble_staffed (state : BankState) : Staffed (assemble state) := by
  refine assemble_bound ?_ ?_ ?_ trivial announce_keepsAccounts state
  · rintro (order | order | order) same context <;> cases same
    rfl
  · rintro (order | order | order) same context <;> cases same
    rfl
  · rintro (order | order | order) same context <;> cases same
    rfl

/-! ## Runs -/

def carried? : Activity application → Option Order
  | .completed _ .deposit order (.ok ()) => some (.deposit order)
  | .completed _ .withdraw order (.ok ()) => some (.withdraw order)
  | .completed _ .transfer order (.ok ()) => some (.transfer order)
  | _ => none

/-- A relation between the accounts before and after, by what was added to the history, in which
nothing counts but what orders book. -/
structure Bookkeeping
    (R : List (Activity application) → Store Account → Store Account → Prop) : Prop where
  still : ∀ {added} store, (∀ activity ∈ added, carried? activity = none) → R added store store
  trans : ∀ {first second a b c}, R first a b → R second b c → R (first ++ second) a c
  booked : ∀ {postings before after} handler (order : Order), Books postings before after →
    postings.map Posting.line = order.lines →
    R [.completed handler order.kind order.payload (.ok ())] before after

/-- Bindings only went away, and the accounts followed the history if the bank was staffed. -/
def Follows (R : List (Activity application) → Store Account → Store Account → Prop)
    (before after : Broker application) : Prop :=
  after.BindsWithin before ∧ (Staffed before → ∃ added, after.history = before.history ++ added ∧
    R added before.state.accounts after.state.accounts)

/-- An order on its way to the bank. -/
structure Request where
  order : Order
  bus : CommandBus
  context : Context

def Request.carryOut (depth : Nat) (request : Request) :
    Act application (Except AppError Unit) :=
  request.bus.dispatch depth request.context request.order.kind request.order.payload

namespace Bookkeeping

variable {R : List (Activity application) → Store Account → Store Account → Prop}

theorem follows_trans (books : Bookkeeping R) {a b c : Broker application} (one : Follows R a b)
    (two : Follows R b c) : Follows R a c := by
  refine ⟨one.1.trans two.1, fun staffed => ?_⟩
  obtain ⟨first, before, early⟩ := one.2 staffed
  obtain ⟨second, after, late⟩ := two.2 (staffed.of_bindsWithin one.1)
  exact ⟨first ++ second, by rw [after, before, List.append_assoc], books.trans early late⟩

/-- A run that leaves the accounts alone, and whose history counts for nothing. -/
theorem follows_still (books : Bookkeeping R) {before after : Broker application}
    (added : List (Activity application)) (binds : after.BindsWithin before)
    (history : after.history = before.history ++ added)
    (accounts : after.state.accounts = before.state.accounts)
    (nothing : ∀ activity ∈ added, carried? activity = none) : Follows R before after := by
  refine ⟨binds, fun _ => ⟨added, history, ?_⟩⟩
  rw [accounts]
  exact books.still _ nothing

/-- A line of the history that counts for nothing. -/
theorem record (books : Bookkeeping R) (broker : Broker application)
    (activity : Activity application) (nothing : carried? activity = none) :
    Follows R broker (broker.record activity) :=
  books.follows_still [activity] (.refl broker) rfl rfl (by simpa using nothing)

theorem effect (books : Bookkeeping R) (effect : Effect application)
    (flush : BusId → Act application (Except AppError Unit)) (broker : Broker application)
    (keeps : KeepsAccounts effect) (plain : ∀ bus, effect ≠ .flush bus) :
    Follows R broker (effect.carryOut flush broker).2 := by
  have nothing : ∀ activity ∈ ([] : List (Activity application)), carried? activity = none :=
    fun _ member => (List.not_mem_nil member).elim
  cases effect with
  | note line => exact books.record broker _ rfl
  | log record => exact books.record broker _ rfl
  | inspect | subscribe | pending =>
      exact books.follows_still [] (.refl broker) (List.append_nil _).symm rfl nothing
  | update change =>
      exact books.follows_still [] (.refl broker) (List.append_nil _).symm (keeps broker.state)
        nothing
  | publish bus events =>
      exact books.follows_still [.published bus events] (.refl broker) rfl rfl
        (by simp [carried?])
  | unbind id =>
      exact books.follows_still [] (Broker.unbind_bindsWithin broker id) (List.append_nil _).symm
        rfl nothing
  | discard bus =>
      exact books.follows_still [.taken bus (broker.buffer bus)] (.refl broker) rfl rfl
        (by simp [carried?])
  | flush bus => exact absurd rfl (plain bus)

theorem frame (books : Bookkeeping R) : Frame KeepsAccounts fun _ => Follows R where
  refl _ broker := books.follows_still [] (.refl broker) (List.append_nil _).symm rfl
    fun _ member => (List.not_mem_nil member).elim
  trans := books.follows_trans
  binds follows := follows.1
  effect := books.effect
  notified _ _ broker _ := books.record broker _ rfl
  flushed bus broker after later := by
    have taken : Follows R broker (broker.take bus).2 :=
      books.follows_still [.taken bus (broker.buffer bus)] (.refl broker) rfl rfl
        (by simp [carried?])
    exact books.follows_trans taken later

/-- Handling an order to its end: what counts is what it moved. -/
theorem handle (books : Bookkeeping R) (order : Order) (context : Context)
    (handler : String) (flush : BusId → Act application (Except AppError Unit))
    (broker : Broker application) :
    Follows R broker (((order.handle context).run flush).bind
      (Broker.complete handler order.kind order.payload) broker).2 := by
  rcases order.handle_run context flush broker with
    ⟨error, ran⟩ | ⟨bus, events, next, _, decided, ran⟩
  · rw [Act.bind_of_some ran]
    refine books.record broker _ ?_
    cases order <;> rfl
  · rw [Act.bind_of_some ran]
    obtain ⟨postings, executed, -⟩ := Order.decide_executed decided
    have published : R [.published bus (events.map .account)] broker.state.accounts
        broker.state.accounts := books.still _ (by simp [carried?])
    refine ⟨.refl broker, fun _ => ⟨[.published bus (events.map .account)] ++
      [.completed handler order.kind order.payload (.ok ())], ?_,
      books.trans published (books.booked handler order executed.books executed.lines)⟩⟩
    show broker.history ++ [_] ++ [_] = _
    rw [List.append_assoc]

theorem containerDispatch (books : Bookkeeping R) (depth : Nat) (context : Context)
    (order : Order) (broker : Broker application) :
    Follows R broker (Broker.dispatch depth context order.kind order.payload broker).2 := by
  have grows : Broker.Grows Activity.Sessionless [] broker
      (Broker.dispatch depth context order.kind order.payload broker).2 :=
    Broker.containerDispatch_grows broker
  obtain ⟨_, _, grown⟩ := grows
  -- bindings only go away, whoever is bound; the accounts follow where the bank is staffed
  refine ⟨grown.binds, fun staffed => ?_⟩
  rcases staffed.dispatch_cases depth context order with ⟨error, notes, told⟩ | ⟨handler, told⟩
  · rw [told broker rfl rfl]
    have nothing : ∀ activity ∈ List.map .logged notes, carried? activity = none := by
      simp [carried?]
    have noted : Follows R broker
        { broker with history := broker.history ++ List.map .logged notes } :=
      books.follows_still _ (.refl broker) rfl rfl nothing
    exact noted.2 staffed
  · rw [told broker rfl rfl]
    have noted : Follows R broker
        (broker.record (.handled handler order.kind order.payload)) :=
      books.record broker _ rfl
    exact (books.follows_trans noted (books.handle order context handler _ _)).2 staffed

/-- The accounts follow a request through any stack of layers. -/
theorem carryOut (books : Bookkeeping R) (depth : Nat) (request : Request)
    (broker : Broker application) (events : broker.EventsOnly KeepsAccounts) :
    Follows R broker (request.carryOut depth broker).2 :=
  books.frame.commandDispatch (fun _ broker => books.record broker _ rfl)
    (fun _ _ _ broker => books.record broker _ rfl)
    (fun broker _ => books.containerDispatch depth request.context request.order broker)
    request.bus broker events

/-- The accounts follow requests one after another. -/
theorem each (books : Bookkeeping R) (depth : Nat) (requests : List Request)
    (broker : Broker application) (events : broker.EventsOnly KeepsAccounts) :
    Follows R broker (Act.each (requests.map (Request.carryOut depth)) broker).2 := by
  refine books.frame.each ?_ broker events
  intro act member broker events
  obtain ⟨request, _, rfl⟩ := List.mem_map.mp member
  exact books.carryOut depth request broker events

end Bookkeeping

theorem paidIn_of_uncarried (currency : Currency) {added : List (Activity application)}
    (nothing : ∀ activity ∈ added, carried? activity = none) : paidIn currency added = 0 := by
  refine List.sum_eq_zero fun amount member => ?_
  obtain ⟨activity, listed, rfl⟩ := List.mem_map.mp member
  have uncarried := nothing activity listed
  split
  · cases uncarried
  · rfl

theorem paidOut_of_uncarried (currency : Currency) {added : List (Activity application)}
    (nothing : ∀ activity ∈ added, carried? activity = none) : paidOut currency added = 0 := by
  refine List.sum_eq_zero fun amount member => ?_
  obtain ⟨activity, listed, rfl⟩ := List.mem_map.mp member
  have uncarried := nothing activity listed
  split
  · cases uncarried
  · rfl

/-- The totals follow what was paid in and out. -/
theorem conserves_bookkeeping : Bookkeeping fun added =>
    Conserves fun currency => paidIn currency added - paidOut currency added where
  still store nothing := by
    refine ⟨fun currency => ?_, rfl⟩
    rw [paidIn_of_uncarried currency nothing, paidOut_of_uncarried currency nothing]
    omega
  trans one two := by
    refine ⟨fun currency => ?_, (one.trans two).roster⟩
    have sum := (one.trans two).total currency
    rw [paidIn_append, paidOut_append]
    omega
  booked handler order posted carried := by
    refine ⟨fun currency => ?_, posted.conserves.roster⟩
    have moved := posted.conserves.total currency
    rw [carried, order.net_lines handler currency] at moved
    exact moved

/-- **No money is made or lost.**  However many orders come in, each on a command bus of its
own, with sessions that fail in any way and handlers of events that leave the accounts alone:
the balances in a currency add up to what they were and what the successful deposits paid in,
less what the successful withdrawals paid out; the accounts are the same ones in the same order
and in the same currencies; and every balance is in bounds.  Since the first so many requests are
requests in a row themselves, this holds after each of them. -/
theorem money_conserved (depth : Nat) (requests : List Request) (broker : Broker application)
    (staffed : Staffed broker) :
    let after := (Act.each (requests.map (Request.carryOut depth)) broker).2
    ∃ added, after.history = broker.history ++ added ∧
      (∀ currency, total currency after.state.accounts =
        total currency broker.state.accounts + paidIn currency added - paidOut currency added) ∧
      after.state.accounts.items.map Account.id = broker.state.accounts.items.map Account.id ∧
      after.state.accounts.items.map (·.balance.currency) =
        broker.state.accounts.items.map (·.balance.currency) ∧
      ∀ account ∈ after.state.accounts.items,
        0 ≤ account.balance.amount.toInt ∧
          account.balance.amount.toInt ≤ Int64.maxValue.toInt := by
  intro after
  have follows := conserves_bookkeeping.each depth requests broker staffed.events
  obtain ⟨added, history, followed⟩ := follows.2 staffed
  have accounts : Conserves (fun currency => paidIn currency added - paidOut currency added)
      broker.state.accounts after.state.accounts := followed
  refine ⟨added, history, fun currency => ?_, ?_, ?_, fun account _ => account.balance.bounds⟩
  · have sum := accounts.total currency
    omega
  · exact accounts.ids
  · have currencies := congrArg (List.map Prod.snd) accounts.roster
    simpa only [roster, List.map_map, Function.comp_def] using currencies

/-- Requests of the small bank: one is not covered, and one commits in vain. -/
def smallRequests : List Request :=
  let context := ({} : Context).withEvents Broker.mainBus
  [⟨.deposit ⟨"acc-a", 25, "USD"⟩, .direct .container, context⟩,
    ⟨.withdraw ⟨"acc-b", 60, "USD"⟩, pipeline (.failing "unit" []) .discardOnFailure, context⟩,
    ⟨.transfer ⟨"acc-b", "acc-a", 30, "USD"⟩,
      pipeline (.failing "unit" [.commit]) .retainOnFailure, context⟩,
    ⟨.withdraw ⟨"acc-a", 100, "USD"⟩, pipeline (.failing "unit" []) .discardOnFailure, context⟩]

theorem money_conserved_smallBank :
    Staffed (assemble smallBank) ∧ total .usd smallBank.accounts = 150 ∧
      let after := (Act.each (smallRequests.map (Request.carryOut 1)) (assemble smallBank)).2
      total .usd after.state.accounts = 75 ∧
      ∃ added, after.history = (assemble smallBank).history ++ added ∧
        total .usd after.state.accounts =
          total .usd (assemble smallBank).state.accounts + paidIn .usd added -
            paidOut .usd added := by
  refine ⟨assemble_staffed smallBank, by decide +kernel, by decide +kernel, ?_⟩
  have conserved :=
    money_conserved 1 smallRequests (assemble smallBank) (assemble_staffed smallBank)
  exact conserved.imp fun added facts => ⟨facts.1, facts.2.1 .usd⟩

end Cqrs.Bank
