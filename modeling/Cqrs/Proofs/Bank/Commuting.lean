/-
# Proofs.Bank.Commuting -- orders on different accounts commute

What the bank decides on an order depends on the accounts that the order names and on nothing else
that is stored; what identifiers and moments are drawn from shows in the records alone
(`Order.decide_matches`).  An order leaves all other accounts as they are, and every account where
it is.  Two orders that name no account in common therefore come to the same in either order, up to
the identifiers and the moments of what they record.

* `Matches.bind` -- two computations step by step: one error in both, or related values;
* `Account.Alike` -- two accounts that came of one by like transactions;
* `dispatch_paired` -- one order given to two banks that hold the accounts it names alike;
* `orders_commute` -- two orders, given to one bank in either order.
-/
import Cqrs.Proofs.Bank.Conservation

namespace Cqrs.Bank

set_option autoImplicit false

/-! ## Likeness -/

/-- The transactions are the same but for their identifiers and moments. -/
structure Transaction.Alike (one two : Transaction) : Prop where
  kind : one.kind = two.kind
  amount : one.amount = two.amount
  counterparty : one.counterparty = two.counterparty

/-- The changes are the same but for the identifiers of their transactions. -/
inductive BalanceChange.Alike : BalanceChange → BalanceChange → Prop
  | change (movement : Movement) (owner : AccountId) (money : Money) (one two : TransactionId) :
      Alike (movement.change owner money one) (movement.change owner money two)

/-- The events are the same but for their identifiers and moments, and for the identifiers of
their transactions. -/
structure AccountEvent.Alike (one two : AccountEvent) : Prop where
  version : one.metadata.eventVersion = two.metadata.eventVersion
  aggregateId : one.metadata.aggregateId = two.metadata.aggregateId
  aggregateType : one.metadata.aggregateType = two.metadata.aggregateType
  change : one.change.Alike two.change

/-- Two accounts came of one and are the same but for the identifiers and the moments of the
transactions that came since. -/
structure Account.Alike (origin one two : Account) : Prop where
  first : one.id = origin.id
  second : two.id = origin.id
  balance : one.balance = two.balance
  transactions : ∃ gained others, one.transactions = origin.transactions ++ gained ∧
    two.transactions = origin.transactions ++ others ∧
    List.Forall₂ Transaction.Alike gained others
  events : one.events = two.events

theorem Account.Alike.refl (account : Account) : account.Alike account account where
  first := rfl
  second := rfl
  balance := rfl
  transactions := ⟨[], [], (List.append_nil _).symm, (List.append_nil _).symm, .nil⟩
  events := rfl

theorem AccountEvent.Alike.refl (event : AccountEvent) : event.Alike event where
  version := rfl
  aggregateId := rfl
  aggregateType := rfl
  change := by
    obtain ⟨metadata, change⟩ := event
    cases change with
    | deposited owner money transaction => exact .change .deposit owner money _ _
    | withdrawn owner money transaction => exact .change .withdraw owner money _ _
    | transferredOut source target money transaction =>
        exact .change (.transferOut target) source money _ _
    | transferredIn source target money transaction =>
        exact .change (.transferIn source) target money _ _

/-- Two accounts came of one by a transition with different stamps. -/
structure Account.MovedAlike (before one two : Account) : Prop where
  alike : before.Alike one.withoutEvents two.withoutEvents
  events : List.Forall₂ AccountEvent.Alike one.events.events two.events.events

/-! ## Computations side by side -/

/-- Two results are one error, or two values in a relation. -/
inductive Matches {α β : Type} (R : α → β → Prop) :
    Except DomainError α → Except DomainError β → Prop
  | error (error : DomainError) : Matches R (.error error) (.error error)
  | ok {value : α} {other : β} (related : R value other) : Matches R (.ok value) (.ok other)

namespace Matches

variable {α β γ δ : Type} {R : α → β → Prop} {S : γ → δ → Prop}

/-- A step that both computations take alike. -/
theorem self (result : Except DomainError α) :
    Matches (fun value other => value = other ∧ result = .ok value) result result := by
  cases result with
  | error error => exact .error error
  | ok value => exact .ok ⟨rfl, rfl⟩

theorem bind {one : Except DomainError α} {two : Except DomainError β}
    {next : α → Except DomainError γ} {follow : β → Except DomainError δ}
    (first : Matches R one two)
    (rest : ∀ value other, R value other → Matches S (next value) (follow other)) :
    Matches S (one >>= next) (two >>= follow) := by
  cases first with
  | error error => exact .error error
  | ok related => exact rest _ _ related

theorem either {one : Except DomainError α} {two : Except DomainError β}
    (both : Matches R one two) :
    (∃ error, one = .error error ∧ two = .error error) ∨
      ∃ value other, one = .ok value ∧ two = .ok other ∧ R value other := by
  cases both with
  | error error => exact Or.inl ⟨error, rfl, rfl⟩
  | ok related => exact Or.inr ⟨_, _, rfl, rfl, related⟩

end Matches

/-- The four transitions come to the same with any two stamps, up to what they record. -/
theorem Attempt.apply_matches (movement : Movement) (money : Money) (stamp other : Stamp)
    (account : Account) :
    Matches account.MovedAlike (Attempt.apply ⟨movement, stamp, money⟩ account)
      (Attempt.apply ⟨movement, other, money⟩ account) := by
  rw [apply_eq, apply_eq]
  refine (Matches.self (account.checkCurrency money)).bind fun _ _ _ => ?_
  refine (Matches.self (movement.move account.balance money)).bind ?_
  rintro balance _ ⟨rfl, -⟩
  refine .ok ⟨⟨rfl, rfl, rfl, ?_, rfl⟩, ?_⟩
  · exact ⟨[Attempt.transaction ⟨movement, stamp, money⟩],
      [Attempt.transaction ⟨movement, other, money⟩], rfl, rfl, .cons ⟨rfl, rfl, rfl⟩ .nil⟩
  · have earlier : List.Forall₂ AccountEvent.Alike account.events.events account.events.events :=
      List.forall₂_same.mpr fun event _ => .refl event
    have recorded : BalanceChange.Alike
        (movement.change account.id money stamp.transactionId)
        (movement.change account.id money other.transactionId) := .change ..
    exact List.rel_append earlier (.cons ⟨rfl, rfl, rfl, recorded⟩ .nil)

/-! ## Decisions -/

def Order.Names : Order → AccountId → Prop
  | .deposit order, id | .withdraw order, id => id.text = order.account
  | .transfer order, id => id.text = order.source ∨ id.text = order.target

theorem Order.names_of_line {order : Order} {id : AccountId} {line : Line}
    (listed : line ∈ order.lines) (own : line.account = id.text) : order.Names id := by
  cases order with
  | deposit | withdraw =>
      obtain rfl := List.mem_singleton.mp listed
      exact own.symm
  | transfer order =>
      simp only [lines, List.mem_cons, List.not_mem_nil, or_false] at listed
      rcases listed with rfl | rfl
      · exact Or.inl own.symm
      · exact Or.inr own.symm

/-- Two decisions announce like events and leave like accounts of those that are named. -/
structure DecidedAlike (named : AccountId → Prop) (before : Store Account)
    (one two : List AccountEvent × BankState) : Prop where
  events : List.Forall₂ AccountEvent.Alike one.1 two.1
  accounts : ∀ id origin, named id → before.find? id = some origin →
    ∃ first second, one.2.accounts.find? id = some first ∧
      two.2.accounts.find? id = some second ∧ origin.Alike first second

namespace BankState

variable {state other : BankState}

theorem obtain_matches {id : AccountId}
    (same : other.accounts.find? id = state.accounts.find? id) :
    Matches (fun account copy => account = copy ∧ state.accounts.find? id = some account ∧
      account.id = id) (state.obtain id) (other.obtain id) := by
  have alike : other.obtain id = state.obtain id := by
    simp only [obtain, Store.obtain, same]
  rw [alike]
  cases loaded : state.obtain id with
  | error error => exact .error error
  | ok account => exact .ok ⟨rfl, obtain_ok loaded⟩

theorem decideMoney_matches (movement : Movement) (order : MoneyOrder)
    (same : ∀ id : AccountId, id.text = order.account →
      other.accounts.find? id = state.accounts.find? id) :
    Matches (DecidedAlike (fun id => id.text = order.account) state.accounts)
      (decideMoney (fun account stamp money => Attempt.apply ⟨movement, stamp, money⟩ account)
        order state)
      (decideMoney (fun account stamp money => Attempt.apply ⟨movement, stamp, money⟩ account)
        order other) := by
  refine (Matches.self (Identifier.parse accountKind order.account)).bind ?_
  rintro id _ ⟨rfl, named⟩
  refine (Matches.self (Money.parse order.amount order.currency)).bind ?_
  rintro money _ ⟨rfl, -⟩
  refine (obtain_matches (same id (Identifier.parse_ok_iff.mp named))).bind ?_
  rintro account _ ⟨rfl, held, identity⟩
  refine (Attempt.apply_matches movement money _ _ account).bind ?_
  intro one two moved
  refine .ok ⟨moved.events, fun sought origin names found => ?_⟩
  obtain rfl := id_of_text (Identifier.parse_ok_iff.mp named) names
  obtain rfl := Option.some.inj (held.symm.trans found)
  exact ⟨_, _, find?_save_own _ (moved.alike.first.trans identity),
    find?_save_own _ (moved.alike.second.trans identity), moved.alike⟩

theorem decideTransfer_matches (order : TransferOrder)
    (same : ∀ id : AccountId, id.text = order.source ∨ id.text = order.target →
      other.accounts.find? id = state.accounts.find? id) :
    Matches (DecidedAlike (fun id => id.text = order.source ∨ id.text = order.target)
      state.accounts) (decideTransfer order state) (decideTransfer order other) := by
  refine (Matches.self (Identifier.parse accountKind order.source)).bind ?_
  rintro sourceId _ ⟨rfl, parsed⟩
  refine (Matches.self (Identifier.parse accountKind order.target)).bind ?_
  rintro targetId _ ⟨rfl, targetParsed⟩
  have sourceNamed := Identifier.parse_ok_iff.mp parsed
  have targetNamed := Identifier.parse_ok_iff.mp targetParsed
  refine (Matches.self (checkApart sourceId targetId)).bind ?_
  rintro _ _ ⟨-, checked⟩
  have one := checkApart_ok checked
  refine (Matches.self (Money.parse order.amount order.currency)).bind ?_
  rintro money _ ⟨rfl, -⟩
  refine (obtain_matches (same sourceId (Or.inl sourceNamed))).bind ?_
  rintro source _ ⟨rfl, sourceHeld, sourceIdentity⟩
  refine (Attempt.apply_matches (.transferOut targetId) money _ _ source).bind ?_
  intro sent sentOther sourceMoved
  refine (obtain_matches (same targetId (Or.inr targetNamed))).bind ?_
  rintro target _ ⟨rfl, targetHeld, targetIdentity⟩
  refine (Attempt.apply_matches (.transferIn sourceId) money _ _ target).bind ?_
  intro received receivedOther targetMoved
  refine .ok ⟨List.rel_append sourceMoved.events targetMoved.events, ?_⟩
  have receivedId : received.id = targetId := targetMoved.alike.first.trans targetIdentity
  have otherId : receivedOther.id = targetId := targetMoved.alike.second.trans targetIdentity
  rintro sought origin (named | named) found
  · obtain rfl := id_of_text sourceNamed named
    obtain rfl := Option.some.inj (sourceHeld.symm.trans found)
    refine ⟨sent.withoutEvents, sentOther.withoutEvents, ?_, ?_, sourceMoved.alike⟩
    · exact (find?_save_apart _ fun same => one (same.symm.trans receivedId)).trans
        (find?_save_own _ (sourceMoved.alike.first.trans sourceIdentity))
    · exact (find?_save_apart _ fun same => one (same.symm.trans otherId)).trans
        (find?_save_own _ (sourceMoved.alike.second.trans sourceIdentity))
  · obtain rfl := id_of_text targetNamed named
    obtain rfl := Option.some.inj (targetHeld.symm.trans found)
    exact ⟨_, _, find?_save_own _ receivedId, find?_save_own _ otherId, targetMoved.alike⟩

end BankState

/-- **What is decided on an order depends on the accounts that it names alone**, up to what is
drawn for the records. -/
theorem Order.decide_matches (order : Order) {state other : BankState}
    (same : ∀ id, order.Names id → other.accounts.find? id = state.accounts.find? id) :
    Matches (DecidedAlike order.Names state.accounts) (order.decide state)
      (order.decide other) := by
  cases order with
  | deposit order => exact BankState.decideMoney_matches .deposit order same
  | withdraw order => exact BankState.decideMoney_matches .withdraw order same
  | transfer order => exact BankState.decideTransfer_matches order same

/-- An account that no posting is of stays as it was. -/
theorem Books.others {postings : List Posting} {before after : Store Account}
    (books : Books postings before after) {id : AccountId}
    (unnamed : ∀ posting ∈ postings, posting.before.id ≠ id) :
    after.find? id = before.find? id := by
  induction postings generalizing before with
  | nil => rw [books.saved]; rfl
  | cons posting rest ih =>
      obtain ⟨-, later⟩ := books.uncons
      have apart : posting.after.id ≠ id := by
        rw [posting.moves.id]
        exact unnamed posting (List.mem_cons_self ..)
      rw [ih later fun other member => unnamed other (List.mem_cons_of_mem _ member),
        find?_save_apart before apart]

/-- An account that an order does not name stays as it was. -/
theorem Books.unnamed {postings : List Posting} {before after : Store Account} {order : Order}
    (books : Books postings before after) (carried : postings.map Posting.line = order.lines)
    {id : AccountId} (unnamed : ¬order.Names id) : after.find? id = before.find? id := by
  refine books.others fun posting member own => unnamed ?_
  have listed : posting.line ∈ order.lines := carried ▸ List.mem_map_of_mem member
  exact order.names_of_line listed (congrArg Identifier.text own)

/-- An order that is carried out leaves every account in its place, and those that it does not name
as they are. -/
theorem Order.decide_others {order : Order} {state next : BankState}
    {events : List AccountEvent} (decided : order.decide state = .ok (events, next)) :
    next.accounts.items.map Account.id = state.accounts.items.map Account.id ∧
      ∀ id, ¬ order.Names id → next.accounts.find? id = state.accounts.find? id := by
  obtain ⟨postings, executed, -⟩ := Order.decide_executed decided
  exact ⟨executed.books.conserves.ids, fun id => executed.books.unnamed executed.lines⟩

/-! ## One order given to two banks -/

/-- Gives an order to the bus that finds handlers in the container, with the context of its
request. -/
def Order.dispatch (depth : Nat) (context : Context) (order : Order) :
    Act application (Except AppError Unit) :=
  Broker.dispatch depth context order.kind order.payload

/-- One order given to two banks: it ends in one error and changes nothing but the histories, or it
is carried out in both, with like decisions. -/
inductive Paired (context : Context) (order : Order) (one two : Broker application) :
    Option (Except AppError Unit) × Broker application →
      Option (Except AppError Unit) × Broker application → Prop
  | refused (error : AppError) (first second : List (Activity application)) :
      Paired context order one two (some (.error error), { one with history := first })
        (some (.error error), { two with history := second })
  | carriedOut {bus : BusId} {events others : List AccountEvent} {next follow : BankState}
      (first second : List (Activity application)) (present : context.events = some bus)
      (decided : order.decide one.state = .ok (events, next))
      (alike : DecidedAlike order.Names one.state.accounts (events, next) (others, follow)) :
      Paired context order one two
        (some (.ok ()), { Broker.publish { one with state := next } bus (events.map .account)
          with history := first })
        (some (.ok ()), { Broker.publish { two with state := follow } bus (others.map .account)
          with history := second })

/-- What an order leaves behind: what is bound and registered as it was, every account in its place,
and those that it does not name as they were. -/
structure Confined (order : Order) (before after : Broker application) : Prop where
  commands : after.commands = before.commands
  container : after.container = before.container
  ids : after.state.accounts.items.map Account.id = before.state.accounts.items.map Account.id
  others : ∀ id, ¬ order.Names id →
    after.state.accounts.find? id = before.state.accounts.find? id

/-- Two runs, each on a broker of its own, have the same answer and put like events on every
bus. -/
structure AnsweredAlike (one two : Broker application)
    (first second : Option (Except AppError Unit) × Broker application) : Prop where
  answer : ∃ outcome, first.1 = some outcome ∧ second.1 = some outcome
  published : ∀ bus, ∃ events others : List AccountEvent,
    first.2.buffer bus = one.buffer bus ++ events.map .account ∧
    second.2.buffer bus = two.buffer bus ++ others.map .account ∧
    List.Forall₂ AccountEvent.Alike events others

theorem published_buffer (broker : Broker application) (bus other : BusId)
    (events : List BankEvent) (history : List (Activity application)) :
    Broker.buffer { broker.publish bus events with history := history } other =
      if bus = other then broker.buffer bus ++ events else broker.buffer other :=
  broker.buffer_put bus other _

namespace Paired

variable {context : Context} {order : Order} {one two : Broker application}
  {first second : Option (Except AppError Unit) × Broker application}

theorem confined (paired : Paired context order one two first second) :
    Confined order one first.2 := by
  cases paired with
  | refused error => exact ⟨rfl, rfl, rfl, fun _ _ => rfl⟩
  | carriedOut _ _ present decided =>
      obtain ⟨ids, others⟩ := order.decide_others decided
      exact ⟨rfl, rfl, ids, others⟩

theorem answeredAlike (paired : Paired context order one two first second) :
    AnsweredAlike one two first second := by
  have nothing : ∀ {before after : Broker application} {bus : BusId},
      after.buffer bus = before.buffer bus → after.buffer bus =
        before.buffer bus ++ ([] : List AccountEvent).map BankEvent.account := by
    intro before after bus same
    rw [same, List.map_nil, List.append_nil]
  cases paired with
  | refused error =>
      exact ⟨⟨_, rfl, rfl⟩, fun bus => ⟨[], [], nothing rfl, nothing rfl, .nil⟩⟩
  | @carriedOut own events others _ _ _ _ present decided alike =>
      refine ⟨⟨_, rfl, rfl⟩, fun bus => ?_⟩
      by_cases same : own = bus
      · subst same
        exact ⟨events, others, (published_buffer ..).trans (if_pos rfl),
          (published_buffer ..).trans (if_pos rfl), alike.events⟩
      · exact ⟨[], [], nothing ((published_buffer ..).trans (if_neg same)),
          nothing ((published_buffer ..).trans (if_neg same)), .nil⟩

theorem accounts (paired : Paired context order one two first second)
    (same : ∀ id, order.Names id →
      two.state.accounts.find? id = one.state.accounts.find? id) {id : AccountId}
    (named : order.Names id) {origin : Account}
    (held : one.state.accounts.find? id = some origin) :
    ∃ left right, first.2.state.accounts.find? id = some left ∧
      second.2.state.accounts.find? id = some right ∧ origin.Alike left right := by
  cases paired with
  | refused error => exact ⟨origin, origin, held, (same id named).trans held, .refl origin⟩
  | carriedOut first second present decided alike => exact alike.accounts id origin named held

end Paired

variable (depth : Nat) (context : Context) (order : Order) {one two : Broker application}

theorem handle_paired (flush : BusId → Act application (Except AppError Unit))
    (same : ∀ id, order.Names id →
      two.state.accounts.find? id = one.state.accounts.find? id) :
    Paired context order one two ((order.handle context).run flush one)
      ((order.handle context).run flush two) := by
  cases present : context.events with
  | none =>
      rw [order.handle_busless flush present one, order.handle_busless flush present two]
      exact .refused .missingEventBus one.history two.history
  | some bus =>
      rcases (order.decide_matches same).either with
        ⟨failure, decided, other⟩ | ⟨⟨events, next⟩, ⟨others, follow⟩, decided, other, alike⟩
      · rw [order.handle_refused flush present decided, order.handle_refused flush present other]
        exact .refused (.domain failure) one.history two.history
      · rw [order.handle_carriedOut flush present decided,
          order.handle_carriedOut flush present other]
        exact .carriedOut _ _ present decided alike

/-- The notes that a bus takes of an order given to a handler are histories alone. -/
theorem Paired.complete {context : Context} {order : Order} {given : Activity application}
    {act : Act application (Except AppError Unit)} (handler : String)
    (paired : Paired context order (one.record given) (two.record given)
      (act (one.record given)) (act (two.record given))) :
    Paired context order one two
      (act.bind (Broker.complete handler order.kind order.payload) (one.record given))
      (act.bind (Broker.complete handler order.kind order.payload) (two.record given)) := by
  rcases ran : act (one.record given) with ⟨result, left⟩
  rcases other : act (two.record given) with ⟨answer, right⟩
  rw [ran, other] at paired
  cases paired with
  | refused error first second =>
      rw [Act.bind_of_some ran, Act.bind_of_some other]
      exact .refused error _ _
  | carriedOut first second present decided alike =>
      rw [Act.bind_of_some ran, Act.bind_of_some other]
      exact .carriedOut _ _ present decided alike

/-- An order given to two banks with the same handlers and the same accounts of those that it
names. -/
theorem dispatch_paired (staffed : Staffed one) (commands : two.commands = one.commands)
    (container : two.container = one.container)
    (same : ∀ id, order.Names id →
      two.state.accounts.find? id = one.state.accounts.find? id) :
    Paired context order one two (order.dispatch depth context one)
      (order.dispatch depth context two) := by
  unfold Order.dispatch
  rcases staffed.dispatch_cases depth context order with ⟨error, notes, told⟩ | ⟨handler, told⟩
  · rw [told one rfl rfl, told two commands container]
    exact .refused error _ _
  · rw [told one rfl rfl, told two commands container]
    exact .complete handler (handle_paired context order (Broker.flush depth) same)

theorem dispatch_confined (staffed : Staffed one) :
    Confined order one (order.dispatch depth context one).2 :=
  (dispatch_paired depth context order staffed rfl rfl fun _ _ => rfl).confined

theorem Confined.staffed {order : Order} {before after : Broker application}
    (confined : Confined order before after) (staffed : Staffed before) : Staffed after :=
  fun id binding bound => staffed id binding (confined.container ▸ bound)

/-! ## Two orders in either order -/

/-- What is found in one of two stores with the same identities has a place in the other. -/
theorem find?_of_ids {one two : Store Account}
    (ids : one.items.map Account.id = two.items.map Account.id)
    (distinct : (two.items.map Account.id).Nodup) {id : AccountId} {account : Account}
    (found : one.find? id = some account) :
    ∃ origin ∈ two.items, two.find? id = some origin := by
  obtain ⟨member, own⟩ := Store.mem_of_find? found
  have listed : account.id ∈ two.items.map Account.id := ids ▸ List.mem_map_of_mem member
  obtain ⟨origin, there, same⟩ := List.mem_map.mp listed
  have identity : origin.id = id := same.trans own
  refine ⟨origin, there, ?_⟩
  rw [← identity]
  exact Store.find?_of_mem distinct there

/-- **Orders on different accounts commute.**  Let two orders, each with a context of its own, name
no account in common, and give them to a bank in the one order and in the other.  Each of them is
answered the same, with success or with the same error, and publishes as many events with the same
contents.  In the end there are the same accounts in the same places, with the same balances and
with transactions that are the same: those from before altogether, and those that came but for
identifiers and moments. -/
theorem orders_commute (depth : Nat) (broker : Broker application) (staffed : Staffed broker)
    (distinct : (broker.state.accounts.items.map Account.id).Nodup) (first second : Order)
    (apart : ∀ id, first.Names id → ¬ second.Names id) (firstContext secondContext : Context) :
    let firstEarly := first.dispatch depth firstContext broker
    let secondLate := second.dispatch depth secondContext firstEarly.2
    let secondEarly := second.dispatch depth secondContext broker
    let firstLate := first.dispatch depth firstContext secondEarly.2
    AnsweredAlike broker secondEarly.2 firstEarly firstLate ∧
    AnsweredAlike firstEarly.2 broker secondLate secondEarly ∧
    secondLate.2.state.accounts.items.map Account.id =
      broker.state.accounts.items.map Account.id ∧
    List.Forall₂
      (fun left right => ∃ origin ∈ broker.state.accounts.items, origin.Alike left right)
      secondLate.2.state.accounts.items firstLate.2.state.accounts.items := by
  intro firstEarly secondLate secondEarly firstLate
  have afterFirst : Confined first broker firstEarly.2 :=
    dispatch_confined depth firstContext first staffed
  have afterSecond : Confined second broker secondEarly.2 :=
    dispatch_confined depth secondContext second staffed
  have thenFirst : Confined first secondEarly.2 firstLate.2 :=
    dispatch_confined depth firstContext first (afterSecond.staffed staffed)
  have thenSecond : Confined second firstEarly.2 secondLate.2 :=
    dispatch_confined depth secondContext second (afterFirst.staffed staffed)
  -- either order finds the accounts that it names as they were, whether it comes first or last
  have firstFinds : ∀ id, first.Names id →
      secondEarly.2.state.accounts.find? id = broker.state.accounts.find? id :=
    fun id named => afterSecond.others id fun other => apart id named other
  have secondFinds : ∀ id, second.Names id →
      broker.state.accounts.find? id = firstEarly.2.state.accounts.find? id :=
    fun id named => (afterFirst.others id fun other => apart id other named).symm
  have firstPaired : Paired firstContext first broker secondEarly.2 firstEarly firstLate :=
    dispatch_paired depth firstContext first staffed afterSecond.commands afterSecond.container
      firstFinds
  have secondPaired : Paired secondContext second firstEarly.2 broker secondLate secondEarly :=
    dispatch_paired depth secondContext second (afterFirst.staffed staffed)
      afterFirst.commands.symm afterFirst.container.symm secondFinds
  have ids := thenSecond.ids.trans afterFirst.ids
  have otherIds := thenFirst.ids.trans afterSecond.ids
  refine ⟨firstPaired.answeredAlike, secondPaired.answeredAlike, ids, ?_⟩
  refine Store.forall₂_of_find? (ids.trans otherIds.symm) (ids ▸ distinct) ?_
  intro id left right foundLeft foundRight
  obtain ⟨origin, member, held⟩ := find?_of_ids ids distinct foundLeft
  refine ⟨origin, member, ?_⟩
  by_cases inFirst : first.Names id
  · obtain ⟨one, two, early, late, alike⟩ := firstPaired.accounts firstFinds inFirst held
    rw [← thenSecond.others id (apart id inFirst)] at early
    obtain rfl := Option.some.inj (early.symm.trans foundLeft)
    obtain rfl := Option.some.inj (late.symm.trans foundRight)
    exact alike
  · by_cases inSecond : second.Names id
    · obtain ⟨one, two, late, early, alike⟩ :=
        secondPaired.accounts secondFinds inSecond ((secondFinds id inSecond).symm.trans held)
      rw [← thenFirst.others id inFirst] at early
      obtain rfl := Option.some.inj (late.symm.trans foundLeft)
      obtain rfl := Option.some.inj (early.symm.trans foundRight)
      exact alike
    · rw [thenSecond.others id inSecond, afterFirst.others id inFirst, held] at foundLeft
      rw [thenFirst.others id inFirst, afterSecond.others id inSecond, held] at foundRight
      obtain rfl := Option.some.inj foundLeft
      obtain rfl := Option.some.inj foundRight
      exact .refl _

/-- A bank with three accounts, and with two requests opened. -/
def threeBank : Broker application :=
  let state := { smallBank with accounts := smallBank.accounts.save thirdAccount }
  (openRequest (openRequest (assemble state)).2).2

def threeBankTransfer : Order := .transfer ⟨"acc-a", "acc-b", 30, "USD"⟩

def threeBankDeposit : Order := .deposit ⟨"acc-c", 7, "USD"⟩

theorem orders_commute_threeBank :
    let context := fun request => ({} : Context).withEvents ⟨request⟩
    let transferred := threeBankTransfer.dispatch 1 (context 1) threeBank
    let deposited := threeBankDeposit.dispatch 1 (context 2) threeBank
    Staffed threeBank ∧ (threeBank.state.accounts.items.map Account.id).Nodup ∧
      (∀ id, threeBankTransfer.Names id → ¬ threeBankDeposit.Names id) ∧
      transferred.1 = some (.ok ()) ∧ deposited.1 = some (.ok ()) ∧
      (transferred.2.buffer ⟨1⟩).length = 2 ∧ (deposited.2.buffer ⟨2⟩).length = 1 ∧
      AnsweredAlike threeBank deposited.2 transferred
        (threeBankTransfer.dispatch 1 (context 1) deposited.2) := by
  intro context transferred deposited
  have staffed : Staffed threeBank := assemble_staffed _
  have distinct : (threeBank.state.accounts.items.map Account.id).Nodup := by decide +kernel
  have apart : ∀ id, threeBankTransfer.Names id → ¬ threeBankDeposit.Names id := by
    rintro id (source | target) own
    · exact absurd (source.symm.trans own) (by decide)
    · exact absurd (target.symm.trans own) (by decide)
  refine ⟨staffed, distinct, apart, by rfl, by rfl, by decide +kernel, by decide +kernel, ?_⟩
  exact (orders_commute 1 threeBank staffed distinct threeBankTransfer threeBankDeposit apart
    (context 1) (context 2)).1

end Cqrs.Bank
