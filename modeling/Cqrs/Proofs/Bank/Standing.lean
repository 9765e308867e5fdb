/-
# Proofs.Bank.Standing -- what becomes of the accounts in any course of things

Accounts are saved and deleted, and orders come in through any stack of layers, in any order
(`Deed`).  What happened to the accounts is then a list (`Deed.allHappenings`): an order counts
where its handler succeeded.  The account that is stored under an identifier is the one that was
saved under it last, with one transaction for each line of an order carried out on it since
(`Standing.Holds`).

* `Bookkeeping.standing` -- orders keep the standing of every account;
* `Bookkeeping.built`, `Deed.carryOutAll_built` -- whatever is done, the accounts come about by
  saving and deleting;
* `Request.carryOut_carries` -- a request carries out its order at most once, and it does where
  its answer is a success;
* `Deed.carryOut_holds`, `Deed.carryOutAll_holds` -- one deed, and any row of them.
-/
import Cqrs.Proofs.Bank.Conservation
import Cqrs.Proofs.LateBinding
import Cqrs.Proofs.Pipeline

namespace Cqrs.Bank

set_option autoImplicit false

/-! ## Standings -/

/-- The line of an order that a transaction of an account is the record of. -/
def Transaction.line (owner : AccountId) (transaction : Transaction) : Line where
  account := owner.text
  kind := transaction.kind
  amount := transaction.amount.amount
  currency := transaction.amount.currency.code

/-- The stored account is a saved one with a transaction for each of the lines, and with its
balance moved by their amounts. -/
structure Account.Reflects (lines : List Line) (saved stored : Account) : Prop where
  id : stored.id = saved.id
  currency : stored.balance.currency = saved.balance.currency
  transactions : ∃ added, stored.transactions = saved.transactions ++ added ∧
    added.map (Transaction.line saved.id) = lines ∧
    stored.balance.amount.toInt = saved.balance.amount.toInt + (added.map Transaction.signed).sum

/-- What is known of an account: as it was saved last, unless it was deleted since, and the lines
of the orders carried out on it since. -/
structure Standing where
  saved : Option Account
  lines : List Line

namespace Standing

def extended (standing : Standing) (lines : List Line) : Standing :=
  { standing with lines := standing.lines ++ lines }

/-- The store holds an account as it stands. -/
def Holds (id : AccountId) (standing : Standing) (store : Store Account) : Prop :=
  match standing.saved with
  | none => store.find? id = none
  | some saved => ∃ stored, store.find? id = some stored ∧ saved.Reflects standing.lines stored

end Standing

/-- The lines of some orders that name an account. -/
def linesFor (id : AccountId) (orders : List Order) : List Line :=
  (orders.flatMap Order.lines).filter fun line => line.account = id.text

theorem Account.Reflects.refl (account : Account) : account.Reflects [] account where
  id := rfl
  currency := rfl
  transactions := ⟨[], (List.append_nil _).symm, rfl, (Int.add_zero _).symm⟩

theorem Account.Reflects.withoutEvents (account : Account) :
    account.Reflects [] account.withoutEvents where
  id := rfl
  currency := rfl
  transactions := ⟨[], (List.append_nil _).symm, rfl, (Int.add_zero _).symm⟩

/-- An account that is moved reflects one more line. -/
theorem Account.Reflects.moves {lines : List Line} {saved before after : Account}
    {transaction : Transaction} {event : AccountEvent} (reflects : saved.Reflects lines before)
    (moves : before.Moves transaction event after) :
    saved.Reflects (lines ++ [transaction.line before.id]) after.withoutEvents := by
  obtain ⟨added, transactions, told, amount⟩ := reflects.transactions
  refine ⟨moves.id.trans reflects.id, moves.currency.trans reflects.currency,
    added ++ [transaction], ?_, ?_, ?_⟩
  · show after.transactions = _
    rw [moves.transactions, transactions, List.append_assoc]
  · rw [List.map_append, told, reflects.id]
    rfl
  · show after.balance.amount.toInt = _
    rw [moves.amount, amount, List.map_append, List.sum_append]
    simp only [List.map_cons, List.map_nil, List.sum_cons, List.sum_nil]
    omega

theorem Standing.extended_nil (standing : Standing) : standing.extended [] = standing := by
  simp [extended]

theorem Standing.extended_append (standing : Standing) (first second : List Line) :
    (standing.extended first).extended second = standing.extended (first ++ second) := by
  simp [extended]

/-- Nothing but what is stored under the identifier matters. -/
theorem Standing.Holds.of_find? {id : AccountId} {standing : Standing}
    {before after : Store Account} (holds : standing.Holds id before)
    (same : after.find? id = before.find? id) : standing.Holds id after := by
  unfold Holds at holds ⊢
  rwa [same]

/-- Saving the account of a posting extends its standing by the posting's line. -/
theorem Posting.save_holds (posting : Posting) {store : Store Account} {id : AccountId}
    {standing : Standing} (loaded : store.find? posting.before.id = some posting.before)
    (holds : standing.Holds id store) :
    (standing.extended ([posting.line].filter fun line => line.account = id.text)).Holds id
      (store.save posting.after) := by
  by_cases same : posting.before.id = id
  · subst same
    have own : [posting.line].filter (fun line => line.account = posting.before.id.text) =
        [posting.transaction.line posting.before.id] := by
      simp [Posting.line, Transaction.line]
    rw [own]
    unfold Standing.Holds at holds ⊢
    rcases standing with ⟨_ | saved, lines⟩
    · simp [loaded] at holds
    · obtain ⟨stored, held, reflects⟩ := holds
      obtain rfl := Option.some.inj (loaded.symm.trans held)
      exact ⟨_, find?_save_own store posting.moves.id, reflects.moves posting.moves⟩
  · have apart : posting.before.id.text ≠ id.text := fun text => same (id_of_text text rfl)
    have none : [posting.line].filter (fun line => line.account = id.text) = [] := by
      simp [Posting.line, apart]
    rw [none, Standing.extended_nil]
    exact holds.of_find? (find?_save_apart store fun other => same (posting.moves.id ▸ other))

theorem Books.holds {postings : List Posting} {before after : Store Account}
    (books : Books postings before after) {id : AccountId} {standing : Standing}
    (holds : standing.Holds id before) :
    (standing.extended ((postings.map Posting.line).filter fun line =>
      line.account = id.text)).Holds id after := by
  induction postings generalizing before standing with
  | nil =>
      rw [books.saved]
      show (standing.extended []).Holds id before
      rwa [Standing.extended_nil]
  | cons posting rest ih =>
      obtain ⟨loaded, later⟩ := books.uncons
      have saved := ih later (posting.save_holds loaded holds)
      rwa [Standing.extended_append, ← List.filter_append] at saved

/-- The standing of every account follows the orders that were carried out. -/
theorem Bookkeeping.standing : Bookkeeping fun added before after => ∀ id standing,
    Standing.Holds id standing before →
      (standing.extended (linesFor id (added.filterMap carried?))).Holds id after where
  still store nothing id standing holds := by
    rw [List.filterMap_eq_nil_iff.mpr nothing]
    show (standing.extended []).Holds id store
    rwa [Standing.extended_nil]
  trans one two id standing holds := by
    have both := two id _ (one id standing holds)
    rw [Standing.extended_append] at both
    simpa only [linesFor, List.filterMap_append, List.flatMap_append, List.filter_append] using both
  booked handler order books carried id standing holds := by
    have told : [Activity.completed handler order.kind order.payload (.ok ())].filterMap carried? =
        [order] := by
      cases order <;> rfl
    have booked := books.holds holds
    rw [carried] at booked
    rw [told]
    simpa [linesFor] using booked

/-- What orders book comes about by saving. -/
theorem Bookkeeping.built : Bookkeeping fun _ before after => before.Built → after.Built where
  still _ _ built := built
  trans one two := two ∘ one
  booked _ _ books _ := books.built

/-! ## Requests -/

/-- A run carried out an order once, or it carried out nothing and did not succeed. -/
def Carries (order : Order) (before : Broker application)
    (run : Option (Except AppError Unit) × Broker application) : Prop :=
  ∃ added, run.2.history = before.history ++ added ∧
    (added.filterMap carried? = [order] ∨
      added.filterMap carried? = [] ∧ run.1 ≠ some (.ok ()))

/-- The activity tells of no order that was carried out. -/
def Uncarried (activity : Activity application) : Prop := carried? activity = none

theorem uncarried_frame : Frame (fun _ => True) (Broker.Grows Uncarried) := by
  refine Broker.grows_frame fun activity own => ?_
  cases activity with
  | completed => exact own.elim
  | noted | logged | published | taken | notified | handled | asked | session => rfl

theorem logged_uncarried (record : LogRecord) (broker : Broker application) :
    Broker.Grows Uncarried [] broker (broker.record (.logged record)) :=
  Broker.record_grows broker (.logged record) trivial trivial rfl

theorem session_uncarried (unit : String) (call : SessionCall) (succeeded : Bool)
    (broker : Broker application) :
    Broker.Grows Uncarried [] broker (broker.record (.session unit call succeeded)) :=
  Broker.record_grows broker (.session unit call succeeded) trivial trivial rfl

namespace Carries

variable {order : Order} {before middle : Broker application}
  {run : Option (Except AppError Unit) × Broker application}

/-- A run that carried out nothing, and did not succeed. -/
theorem nothing (uncarried : Broker.Grows Uncarried [] before run.2)
    (unsuccessful : run.1 ≠ some (.ok ())) : Carries order before run := by
  obtain ⟨added, none, adds⟩ := uncarried
  exact ⟨added, adds.history, Or.inr ⟨List.filterMap_eq_nil_iff.mpr none, unsuccessful⟩⟩

/-- What went before carried out nothing. -/
theorem late (uncarried : Broker.Grows Uncarried [] before middle)
    (carries : Carries order middle run) : Carries order before run := by
  obtain ⟨early, none, adds⟩ := uncarried
  obtain ⟨added, history, carried⟩ := carries
  refine ⟨early ++ added, by rw [history, adds.history, List.append_assoc], ?_⟩
  rwa [List.filterMap_append, List.filterMap_eq_nil_iff.mpr none, List.nil_append]

/-- What comes after carries out nothing, and makes no success of a failure. -/
theorem bind {act : Act application (Except AppError Unit)}
    {next : Except AppError Unit → Act application (Except AppError Unit)}
    (carries : Carries order before (act before))
    (uncarried : ∀ outcome broker, Broker.Grows Uncarried [] broker (next outcome broker).2)
    (faithful : ∀ error broker, (next (.error error) broker).1 ≠ some (.ok ())) :
    Carries order before (act.bind next before) := by
  obtain ⟨added, history, carried⟩ := carries
  rcases answered : act before with ⟨_ | outcome, middle⟩
  · rw [answered] at history carried
    rw [Act.bind_of_none answered]
    exact ⟨added, history, carried⟩
  · rw [answered] at history carried
    rw [Act.bind_of_some answered]
    obtain ⟨later, none, adds⟩ := uncarried outcome middle
    refine ⟨added ++ later, by rw [adds.history, history, List.append_assoc], ?_⟩
    rw [List.filterMap_append, List.filterMap_eq_nil_iff.mpr none, List.append_nil]
    refine carried.imp_right fun failed => ⟨failed.1, ?_⟩
    rcases outcome with error | _
    · exact faithful error middle
    · exact absurd rfl failed.2

variable (depth : Nat) (context : Context) (order : Order)

/-- The handler that is given the order leaves a note of how it ended. -/
theorem handling (handler : String)
    (handle : Context → application.Payload order.kind → Reaction application)
    (broker : Broker application) :
    Carries order broker
      (Cqrs.handling depth context order.kind order.payload handler handle broker) := by
  have ran : Broker.Grows Uncarried [] broker
      ((handle context order.payload).run (Broker.flush depth) broker).2 :=
    uncarried_frame.run (fun bus next => uncarried_frame.flush depth bus next)
      (Program.only_true _) broker broker.eventsOnly_true
  unfold Cqrs.handling
  rcases answered : (handle context order.payload).run (Broker.flush depth) broker with
    ⟨_ | outcome, middle⟩
  · rw [Act.bind_of_none answered]
    rw [answered] at ran
    exact .nothing ran (by simp)
  · rw [Act.bind_of_some answered]
    rw [answered] at ran
    refine .late ran ⟨[.completed handler order.kind order.payload outcome], rfl, ?_⟩
    rcases outcome with error | _
    · refine Or.inr ⟨?_, by simp [Broker.complete]⟩
      cases order <;> rfl
    · refine Or.inl ?_
      cases order <;> rfl

theorem containerDispatch (broker : Broker application) :
    Carries order broker (Broker.dispatch depth context order.kind order.payload broker) := by
  have routed := dispatch_routed depth context order.kind order.payload broker
  revert routed
  generalize Broker.dispatch depth context order.kind order.payload broker = run
  intro routed
  cases routed with
  | unregistered =>
      exact .nothing (logged_uncarried _ broker) (by simp)
  | unbound | unfit => exact .nothing (uncarried_frame.refl [] broker) (by simp)
  | invoked id handle =>
      refine .late ?_ (handling depth context order id handle _)
      exact Broker.record_grows broker (.handled id order.kind order.payload) trivial trivial rfl

theorem directDispatch (bus : DirectBus) (broker : Broker application) :
    Carries order broker (bus.dispatch depth context order.kind order.payload broker) := by
  induction bus with
  | container => exact containerDispatch depth context order broker
  | flushing policy inner ih =>
      cases present : context.eventBus with
      | error =>
          simp only [DirectBus.dispatch, DirectBus.flushAround, present]
          exact .nothing (uncarried_frame.refl [] broker) (by simp [Act.answer])
      | ok bus =>
          simp only [DirectBus.dispatch, DirectBus.flushAround, present]
          refine ih.bind (fun outcome next => ?_) fun error next => ?_
          · cases outcome with
            | ok => exact uncarried_frame.flush depth bus next next.eventsOnly_true
            | error =>
                cases policy with
                | discardOnFailure => exact uncarried_frame.taken bus next
                | retainOnFailure => exact uncarried_frame.refl [] next
          · cases policy <;> simp [DirectBus.settle]

theorem sessionAround (unit : UnitOfWork) (command : String)
    {inner : Act application (Except AppError Unit)}
    (carries : ∀ broker, Carries order broker (inner broker)) (broker : Broker application) :
    Carries order broker (CommandBus.sessionAround unit command inner broker) := by
  have opening := Frame.unitCall session_uncarried unit .createSession broker
  obtain ⟨outcome, opened, answered⟩ := Passage.call_answers unit .createSession broker
  rw [answered] at opening
  cases outcome with
  | error failure =>
      have refused : CommandBus.sessionAround unit command inner broker =
          (some (.error (.domain failure)), opened) := Act.bind_of_some answered
      rw [refused]
      exact .nothing opening (by simp)
  | ok =>
      have started : CommandBus.sessionAround unit command inner broker =
          inner.bind (CommandBus.conclude unit command) opened := Act.bind_of_some answered
      rw [started]
      refine .late opening ((carries opened).bind (fun outcome next => ?_) fun error next => ?_)
      · exact uncarried_frame.conclude logged_uncarried session_uncarried unit command outcome next
      · simp [Passage.conclude_error]

end Carries

/-- A request carries out its order once, or it carries out nothing and does not succeed. -/
theorem Request.carryOut_carries (depth : Nat) (request : Request) (broker : Broker application) :
    Carries request.order broker (request.carryOut depth broker) := by
  obtain ⟨order, bus, context⟩ := request
  show Carries order broker (bus.dispatch depth context order.kind order.payload broker)
  induction bus generalizing broker with
  | direct bus => exact Carries.directDispatch depth context order bus broker
  | transactional unit inner ih => exact Carries.sessionAround order unit _ ih broker

/-! ## Deeds -/

/-- Something that happens to the accounts. -/
inductive Happening where
  | saved (account : Account)
  | deleted (id : AccountId)
  | carriedOut (order : Order)

/-- Something that is done with the bank: an account is saved or deleted, or an order comes in. -/
inductive Deed where
  | save (account : Account)
  | delete (id : AccountId)
  | dispatch (request : Request)

namespace Deed

def carryOut (depth : Nat) : Deed → Broker application → Broker application
  | .save account, broker => { broker with state := broker.state.save account }
  | .delete id, broker =>
      { broker with state :=
          { broker.state with accounts := broker.state.accounts.delete id } }
  | .dispatch request, broker => (request.carryOut depth broker).2

def carryOutAll (depth : Nat) (deeds : List Deed) (broker : Broker application) :
    Broker application :=
  deeds.foldl (fun broker deed => deed.carryOut depth broker) broker

/-- What a deed does to the accounts: a request, the orders that its history tells of. -/
def happenings (depth : Nat) : Deed → Broker application → List Happening
  | .save account, _ => [.saved account]
  | .delete id, _ => [.deleted id]
  | .dispatch request, broker =>
      (((request.carryOut depth broker).2.history.drop broker.history.length).filterMap
        carried?).map .carriedOut

def allHappenings (depth : Nat) : List Deed → Broker application → List Happening
  | [], _ => []
  | deed :: rest, broker =>
      deed.happenings depth broker ++ allHappenings depth rest (deed.carryOut depth broker)

end Deed

namespace Standing

def next (id : AccountId) (standing : Standing) : Happening → Standing
  | .saved account => if account.id = id then ⟨some account, []⟩ else standing
  | .deleted other => if other = id then ⟨none, []⟩ else standing
  | .carriedOut order => standing.extended (linesFor id [order])

/-- The standing of an account after all that happened, from what is stored at first. -/
def after (id : AccountId) (store : Store Account) (happenings : List Happening) : Standing :=
  happenings.foldl (next id) ⟨store.find? id, []⟩

theorem start_holds (id : AccountId) (store : Store Account) :
    Standing.Holds id ⟨store.find? id, []⟩ store := by
  unfold Holds
  cases held : store.find? id with
  | none => rfl
  | some account => exact ⟨account, rfl, .refl account⟩

theorem foldl_carriedOut (id : AccountId) (orders : List Order) (standing : Standing) :
    (orders.map .carriedOut).foldl (next id) standing = standing.extended (linesFor id orders) := by
  induction orders generalizing standing with
  | nil => exact standing.extended_nil.symm
  | cons order rest ih =>
      rw [List.map_cons, List.foldl_cons, ih, next, extended_append]
      simp [linesFor]

variable {id : AccountId} {standing : Standing} {store : Store Account}

theorem Holds.saved (holds : standing.Holds id store) (account : Account) :
    (standing.next id (.saved account)).Holds id (store.save account) := by
  simp only [next]
  by_cases same : account.id = id
  · rw [if_pos same]
    exact ⟨_, find?_save_own store same, .withoutEvents account⟩
  · rw [if_neg same]
    exact holds.of_find? (find?_save_apart store same)

theorem Holds.deleted (holds : standing.Holds id store) (other : AccountId) :
    (standing.next id (.deleted other)).Holds id (store.delete other) := by
  have found : (store.delete other).find? id = if other = id then none else store.find? id :=
    Store.find?_delete store other id
  simp only [next]
  by_cases same : other = id
  · rw [if_pos same] at found ⊢
    exact found
  · rw [if_neg same] at found ⊢
    exact holds.of_find? found

end Standing

namespace Deed

variable {id : AccountId} {standing : Standing} {broker : Broker application}

/-- Deeds bind nothing. -/
theorem carryOut_bindsWithin (depth : Nat) (deed : Deed) (staffed : Staffed broker) :
    (deed.carryOut depth broker).BindsWithin broker := by
  cases deed with
  | save | delete => exact .refl broker
  | dispatch request =>
      exact (Bookkeeping.standing.carryOut depth request broker staffed.events).1

theorem carryOut_built (depth : Nat) (deed : Deed) (staffed : Staffed broker)
    (built : broker.state.accounts.Built) : (deed.carryOut depth broker).state.accounts.Built := by
  cases deed with
  | save account => exact built.save account
  | delete other => exact built.delete other
  | dispatch request =>
      obtain ⟨_, _, kept⟩ :=
        (Bookkeeping.built.carryOut depth request broker staffed.events).2 staffed
      exact kept built

/-- Any deeds: the accounts come about by saving and deleting. -/
theorem carryOutAll_built (depth : Nat) (deeds : List Deed) (staffed : Staffed broker)
    (built : broker.state.accounts.Built) :
    (carryOutAll depth deeds broker).state.accounts.Built := by
  induction deeds generalizing broker with
  | nil => exact built
  | cons deed rest ih =>
      exact ih (staffed.of_bindsWithin (deed.carryOut_bindsWithin depth staffed))
        (deed.carryOut_built depth staffed built)

/-- A request does what its order says if it succeeds, and once at most. -/
theorem happenings_dispatch (depth : Nat) (request : Request) (broker : Broker application) :
    (Deed.dispatch request).happenings depth broker = [.carriedOut request.order] ∨
      (Deed.dispatch request).happenings depth broker = [] ∧
        (request.carryOut depth broker).1 ≠ some (.ok ()) := by
  obtain ⟨added, history, carried⟩ := request.carryOut_carries depth broker
  simp only [happenings, history, List.drop_left]
  rcases carried with once | ⟨never, unsuccessful⟩
  · exact Or.inl (by rw [once]; rfl)
  · exact Or.inr ⟨by rw [never]; rfl, unsuccessful⟩

/-- One deed: every account is as it stands after it. -/
theorem carryOut_holds (depth : Nat) (deed : Deed) (staffed : Staffed broker)
    (holds : standing.Holds id broker.state.accounts) :
    ((deed.happenings depth broker).foldl (Standing.next id) standing).Holds id
      (deed.carryOut depth broker).state.accounts := by
  cases deed with
  | save account => exact holds.saved account
  | delete other => exact holds.deleted other
  | dispatch request =>
      obtain ⟨added, history, followed⟩ :=
        (Bookkeeping.standing.carryOut depth request broker staffed.events).2 staffed
      have told : Deed.happenings depth (.dispatch request) broker =
          (added.filterMap carried?).map .carriedOut := by
        simp only [happenings, history, List.drop_left]
      rw [told, Standing.foldl_carriedOut]
      exact followed id standing holds

/-- Any deeds: every account is as it stands after all of them. -/
theorem carryOutAll_holds (depth : Nat) (deeds : List Deed) (staffed : Staffed broker)
    (holds : standing.Holds id broker.state.accounts) :
    ((allHappenings depth deeds broker).foldl (Standing.next id) standing).Holds id
      (carryOutAll depth deeds broker).state.accounts := by
  induction deeds generalizing standing broker with
  | nil => exact holds
  | cons deed rest ih =>
      rw [allHappenings, List.foldl_append]
      exact ih (staffed.of_bindsWithin (deed.carryOut_bindsWithin depth staffed))
        (deed.carryOut_holds depth staffed holds)

end Deed

end Cqrs.Bank
