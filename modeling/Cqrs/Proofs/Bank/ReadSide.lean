/-
# Proofs.Bank.ReadSide -- the read side answers for what is stored, and truthfully

The projection of an account is texts and numbers, which the read side checks again: the
identifier, the balance with its currency and the kind of every transaction.  None of these checks
ever fails on an account (`ofProjection_ofAccount`), so a question for a status is answered by the
form of its text and by what is stored (`getStatus_told`).

* `ReadSide` -- the query is registered and its handler bound, which deeds leave so;
* `status_of_stored` -- after any deeds, what is answered is what became of the account.
-/
import Cqrs.Proofs.Bank.Standing

namespace Cqrs

set_option autoImplicit false

namespace Bank

/-! ## Projections -/

theorem TransactionType.name_injective {a b : TransactionType} (same : a.name = b.name) :
    a = b := by
  cases a <;> cases b <;> first | rfl | exact absurd same (by decide)

theorem TransactionType.parse_name (kind : TransactionType) :
    TransactionType.parse kind.name = .ok kind := by
  have listed : kind ∈ (Vocabulary.values : List TransactionType) := by cases kind <;> decide
  have read : Vocabulary.read? kind.name = some kind :=
    Vocabulary.read?_name TransactionType.name_injective listed
  simp only [TransactionType.parse, read]

theorem Balance.parse_code (balance : Balance) :
    Balance.parse balance.amount balance.currency.code = .ok balance := by
  simp only [Balance.parse, Currency.parse_code, Balance.make, balance.nonnegative, dite_true]

def Transaction.status (transaction : Transaction) : TransactionStatus where
  id := transaction.id.text
  kind := transaction.kind
  amount := transaction.amount.amount
  currency := transaction.amount.currency.code
  createdAt := transaction.createdAt.secondsText

/-- The status of an account: its identifier, its balance and its transactions in order. -/
def Account.status (account : Account) : AccountStatus where
  accountId := account.id
  balance := account.balance
  transactions := account.transactions.map Transaction.status

theorem ofProjection_ofTransaction (transaction : Transaction) :
    TransactionStatus.ofProjection (.ofTransaction transaction) = .ok transaction.status := by
  simp only [TransactionStatus.ofProjection, TransactionProjection.ofTransaction,
    TransactionType.parse_name, Except.map, Transaction.status]

theorem mapM_ofProjection (transactions : List Transaction) :
    (transactions.map TransactionProjection.ofTransaction).mapM TransactionStatus.ofProjection =
      .ok (transactions.map Transaction.status) := by
  induction transactions with
  | nil => rfl
  | cons transaction rest ih =>
      rw [List.map_cons, List.mapM_cons, ofProjection_ofTransaction, ih]
      rfl

/-- **The projection of an account is always read back**, as its status. -/
theorem ofProjection_ofAccount (account : Account) :
    AccountStatus.ofProjection (.ofAccount account) = .ok account.status := by
  simp only [AccountStatus.ofProjection, AccountProjection.ofAccount, Identifier.parse_self,
    Balance.parse_code, mapM_ofProjection]
  rfl

/-- What the status of an account is asked by, and what is answered. -/
inductive Told (store : Store Account) (text : String) : Except AppError AccountStatus → Prop
  /-- The text is no identifier of an account. -/
  | invalid (unfit : ¬ accountKind.Admits text) (reason : String) :
      Told store text (.error (.domain (.invalidValue reason)))
  /-- There is no such account. -/
  | missing {id : AccountId} (named : id.text = text) (absent : store.find? id = none) :
      Told store text (.error (.domain (.notFound "BankAccount" (some text))))
  /-- There is one, and this is its status. -/
  | stored {id : AccountId} {account : Account} (named : id.text = text)
      (held : store.find? id = some account) : Told store text (.ok account.status)

/-- What is stored under an identifier is projected. -/
theorem getProjection_text (store : Store Account) (id : AccountId) :
    getProjection store id.text = .ok ((store.find? id).map .ofAccount) := by
  simp only [getProjection, Identifier.parse_self]

theorem getStatus_told (store : Store Account) (text : String) :
    Told store text (getStatus store text) := by
  cases parsed : Identifier.parse accountKind text with
  | ok id =>
      obtain rfl := Identifier.parse_ok_iff.mp parsed
      have projected := getProjection_text store id
      cases held : store.find? id with
      | none =>
          have answered : getStatus store id.text =
              .error (.domain (.notFound "BankAccount" (some id.text))) := by
            simp only [getStatus, parsed, projected, held, Option.map_none]
          rw [answered]
          exact .missing rfl held
      | some account =>
          have answered : getStatus store id.text = .ok account.status := by
            simp only [getStatus, parsed, projected, held, Option.map_some, ofProjection_ofAccount]
          rw [answered]
          exact .stored rfl held
  | error failure =>
      obtain ⟨reason, objection, rfl⟩ := Identifier.parse_error_iff.mp parsed
      have answered : getStatus store text = .error (.domain (.invalidValue reason)) := by
        simp only [getStatus, parsed]
      rw [answered]
      exact .invalid objection.not_admits reason

namespace Told

variable {store : Store Account} {text : String} {answer : Except AppError AccountStatus}

theorem invalid_iff (told : Told store text answer) :
    (∃ reason, answer = .error (.domain (.invalidValue reason))) ↔ ¬ accountKind.Admits text := by
  cases told with
  | invalid unfit reason => exact ⟨fun _ => unfit, fun _ => ⟨reason, rfl⟩⟩
  | missing named absent => subst named; simp [Identifier.admits]
  | stored named held => subst named; simp [Identifier.admits]

theorem missing_iff (told : Told store text answer) :
    answer = .error (.domain (.notFound "BankAccount" (some text))) ↔
      ∃ id : AccountId, id.text = text ∧ store.find? id = none := by
  cases told with
  | invalid unfit reason =>
      refine ⟨fun same => (by cases same), ?_⟩
      rintro ⟨id, rfl, -⟩
      exact absurd id.admits unfit
  | missing named absent => exact ⟨fun _ => ⟨_, named, absent⟩, fun _ => rfl⟩
  | stored named held =>
      refine ⟨fun same => (by cases same), ?_⟩
      rintro ⟨id, other, absent⟩
      rw [id_of_text other named, held] at absent
      cases absent

theorem stored_iff (told : Told store text answer) (status : AccountStatus) :
    answer = .ok status ↔ ∃ (id : AccountId) (account : Account), id.text = text ∧
      store.find? id = some account ∧ status = account.status := by
  cases told with
  | invalid unfit reason =>
      refine ⟨fun same => (by cases same), ?_⟩
      rintro ⟨id, account, rfl, -⟩
      exact absurd id.admits unfit
  | missing named absent =>
      refine ⟨fun same => (by cases same), ?_⟩
      rintro ⟨id, account, other, held, -⟩
      rw [id_of_text other named, absent] at held
      cases held
  | @stored id account named held =>
      constructor
      · intro same
        exact ⟨id, account, named, held, (Except.ok.inj same).symm⟩
      · rintro ⟨other, found, alike, foundHeld, rfl⟩
        rw [id_of_text alike named, held] at foundHeld
        rw [Option.some.inj foundHeld]

end Told

/-! ## The query -/

/-- The bank is staffed, no handler removes a binding, and the query for a status has its
handler. -/
structure ReadSide (broker : Broker application) : Prop where
  staffed : Staffed broker
  lasting : broker.Lasting
  answers : ∃ handler, broker.queries.get? .status = some handler ∧
    broker.container.get? handler = some (.query .status fun _ question => answerStatus question)

section Handlers

open Handling

theorem obtain_keepsBindings (id : AccountId) : (obtain id).run.Only Effect.KeepsBindings :=
  ⟨fun _ same => (nomatch same), fun _ => trivial⟩

theorem stamp_keepsBindings (unsaved : Nat) : (stamp unsaved).run.Only Effect.KeepsBindings :=
  ⟨fun _ same => (nomatch same), fun _ => trivial⟩

theorem save_keepsBindings (account : Account) :
    (save account).run.Only Effect.KeepsBindings :=
  ⟨fun _ same => (nomatch same), fun _ => trivial⟩

theorem publish_keepsBindings (bus : BusId) (events : List AccountEvent) :
    (publish bus events).run.Only Effect.KeepsBindings :=
  ⟨fun _ same => (nomatch same), fun _ => trivial⟩

theorem handleMoney_keepsBindings
    (transition : Account → Stamp → Money → Except DomainError Account) (context : Context)
    (order : MoneyOrder) :
    (handleMoney transition context order).Only Effect.KeepsBindings := by
  refine only_bind trivial fun bus => ?_
  refine only_bind trivial fun id => ?_
  refine only_bind trivial fun money => ?_
  refine only_bind (obtain_keepsBindings id) fun account => ?_
  refine only_bind (stamp_keepsBindings 0) fun stamp => ?_
  refine only_bind trivial fun account => ?_
  exact only_bind (save_keepsBindings account) fun _ => publish_keepsBindings bus _

theorem handleTransfer_keepsBindings (context : Context) (order : TransferOrder) :
    (handleTransfer context order).Only Effect.KeepsBindings := by
  refine only_bind trivial fun bus => ?_
  refine only_bind trivial fun sourceId => ?_
  refine only_bind trivial fun targetId => ?_
  refine only_bind trivial fun apart => ?_
  refine only_bind trivial fun money => ?_
  refine only_bind (obtain_keepsBindings sourceId) fun source => ?_
  refine only_bind (stamp_keepsBindings 0) fun stamp => ?_
  refine only_bind trivial fun source => ?_
  refine only_bind (obtain_keepsBindings targetId) fun target => ?_
  refine only_bind (stamp_keepsBindings 1) fun stamp => ?_
  refine only_bind trivial fun target => ?_
  refine only_bind (save_keepsBindings source) fun _ => ?_
  exact only_bind (save_keepsBindings target) fun _ => publish_keepsBindings bus _

end Handlers

theorem announce_keepsBindings (eventType : String) (event : BankEvent) :
    (announce eventType event).Only Effect.KeepsBindings := by
  cases event with
  | account event =>
      by_cases same : event.change.eventType = eventType
      · simp only [announce, if_pos same]
        exact ⟨fun id same => (by cases same), fun _ => trivial⟩
      · simp only [announce, if_neg same]
        trivial
  | foreign id other => trivial

/-- The bank is as it is assembled, whatever its accounts. -/
theorem assemble_readSide (state : BankState) : ReadSide (assemble state) where
  staffed := assemble_staffed state
  lasting := by
    refine assemble_bound ?_ ?_ ?_ ?_ announce_keepsBindings state
    · exact handleMoney_keepsBindings Account.deposit
    · exact handleMoney_keepsBindings Account.withdraw
    · exact handleTransfer_keepsBindings
    · exact fun context question => ⟨fun id same => (nomatch same), fun _ => trivial⟩
  answers := ⟨statusHandler, rfl, rfl⟩

namespace ReadSide

variable {broker : Broker application}

/-- The status of an account is asked of what is stored. -/
theorem ask (readSide : ReadSide broker) (depth : Nat) (context : Context) (text : String) :
    (Broker.ask (A := application) depth context .status text broker).1 =
      some (getStatus broker.state.accounts text) := by
  obtain ⟨handler, registered, bound⟩ := readSide.answers
  have resolved : broker.resolve handler =
      .ok (.query .status fun _ question => answerStatus question) := by
    simp only [Broker.resolve, bound]
  unfold Broker.ask
  rw [registered]
  simp only [resolved]
  rfl

/-- A deed leaves the read side as it is. -/
theorem carryOut (readSide : ReadSide broker) (depth : Nat) (deed : Deed) :
    ReadSide (deed.carryOut depth broker) := by
  cases deed with
  | save | delete => exact ⟨readSide.staffed, readSide.lasting, readSide.answers⟩
  | dispatch request =>
      have keeps : broker.Keeps (request.carryOut depth broker).2 :=
        broker.commandDispatch_keeps depth request.context readSide.lasting request.bus
          request.order.kind request.order.payload
      have container := keeps.container readSide.lasting
      refine ⟨readSide.staffed.of_bindsWithin keeps.loosens.binds,
        keeps.loosens.lasting readSide.lasting, ?_⟩
      obtain ⟨handler, registered, bound⟩ := readSide.answers
      exact ⟨handler, keeps.loosens.queries ▸ registered, container ▸ bound⟩

theorem carryOutAll (readSide : ReadSide broker) (depth : Nat) (deeds : List Deed) :
    ReadSide (Deed.carryOutAll depth deeds broker) := by
  induction deeds generalizing broker with
  | nil => exact readSide
  | cons deed rest ih => exact ih (readSide.carryOut depth deed)

end ReadSide

/-- **The read side answers for what is stored, and truthfully.**  The projection of every account
is read back as its status, with nothing lost or refused.  After any saves, deletes and orders,
each on a command bus of its own, a question is answered to any context: a text outside the
grammar of identifiers with an invalid value, one that names no stored account with its absence,
and one that names a stored account with its status.  That account is the one that was saved last
under the identifier, with a transaction for each line of an order carried out since and with its
balance moved by them; and a request carried out its order if it succeeded, and once at most. -/
theorem status_of_stored (depth : Nat) (deeds : List Deed) (broker : Broker application)
    (readSide : ReadSide broker) :
    let after := Deed.carryOutAll depth deeds broker
    (∀ account : Account,
      AccountStatus.ofProjection (.ofAccount account) = .ok account.status) ∧
    (∀ context text, ∃ answer,
      (Broker.ask (A := application) depth context .status text after).1 = some answer ∧
      ((∃ reason, answer = .error (.domain (.invalidValue reason))) ↔
        ¬ accountKind.Admits text) ∧
      (answer = .error (.domain (.notFound "BankAccount" (some text))) ↔
        ∃ id : AccountId, id.text = text ∧ after.state.accounts.find? id = none) ∧
      ∀ status, answer = .ok status ↔ ∃ (id : AccountId) (account : Account), id.text = text ∧
        after.state.accounts.find? id = some account ∧ status = account.status) ∧
    (∀ id : AccountId,
      (Standing.after id broker.state.accounts (Deed.allHappenings depth deeds broker)).Holds id
        after.state.accounts) ∧
    ∀ (request : Request) (before : Broker application),
      (Deed.dispatch request).happenings depth before = [.carriedOut request.order] ∨
        (Deed.dispatch request).happenings depth before = [] ∧
          (request.carryOut depth before).1 ≠ some (.ok ()) := by
  intro after
  refine ⟨ofProjection_ofAccount, fun context text => ?_, fun id => ?_, fun request before => ?_⟩
  · have told := getStatus_told after.state.accounts text
    have answered := (readSide.carryOutAll depth deeds).ask depth context text
    exact ⟨_, answered, told.invalid_iff, told.missing_iff, told.stored_iff⟩
  · exact Deed.carryOutAll_holds depth deeds readSide.staffed (Standing.start_holds id _)
  · exact Deed.happenings_dispatch depth request before

/-- An account is opened and paid into, one is not covered, and one is removed. -/
def smallDeeds : List Deed :=
  let context := ({} : Context).withEvents Broker.mainBus
  [.save thirdAccount,
    .dispatch ⟨.deposit ⟨"acc-c", 25, "USD"⟩, .direct .container, context⟩,
    .dispatch ⟨.withdraw ⟨"acc-b", 60, "USD"⟩, pipeline (.failing "unit" []) .discardOnFailure,
      context⟩,
    .delete firstAccountId]

def smallBankAfter : Broker application := Deed.carryOutAll 1 smallDeeds (assemble smallBank)

/-- What the small bank answers then, with the balance and the transactions of a status. -/
def smallAnswer (text : String) : Option (Option (Int64 × List (TransactionType × Int64))) :=
  (Broker.ask (A := application) 1 {} .status text smallBankAfter).1.map fun
    | .ok status => some (status.balance.amount, status.transactions.map fun transaction =>
        (transaction.kind, transaction.amount))
    | .error _ => none

theorem status_of_stored_smallBank :
    ReadSide (assemble smallBank) ∧
      smallAnswer "acc-c" = some (some (30, [(.deposit, 25)])) ∧
      smallAnswer "acc-b" = some (some (50, [])) ∧
      smallAnswer "acc-a" = some none ∧
      smallAnswer "nobody" = some none ∧
      ∀ id : AccountId,
        (Standing.after id (assemble smallBank).state.accounts
          (Deed.allHappenings 1 smallDeeds (assemble smallBank))).Holds id
            smallBankAfter.state.accounts := by
  refine ⟨assemble_readSide smallBank, by decide +kernel, by decide +kernel, by decide +kernel,
    by decide +kernel, ?_⟩
  exact (status_of_stored 1 smallDeeds (assemble smallBank) (assemble_readSide smallBank)).2.2.1

end Bank

end Cqrs
