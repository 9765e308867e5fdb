/-
# Bank.Audit -- handlers that watch the bank

An auditor leaves a line for every event of an account, a witness one for every event it
is given.
-/
import Cqrs.Bank.Assembly

namespace Cqrs.Bank

set_option autoImplicit false

def auditHandler : String := "test.audit"

def auditLine : BankEvent → String
  | .account event =>
      event.change.eventType ++ "@" ++ event.metadata.aggregateId ++ " " ++
        toString event.change.amount.amount.toInt
  | .foreign _ eventType => eventType ++ "@"

def audit : Binding application :=
  .event fun event => .perform (.note (auditLine event)) fun _ => .done (.ok ())

def audited (broker : Broker application) : Broker application :=
  BalanceChange.eventTypes.foldl (fun broker eventType => broker.subscribe eventType auditHandler)
    (broker.bind auditHandler audit)

/-- A handler that leaves a line with its id for every event, and perhaps fails then: at
every event, or at the one with a certain id. -/
def witness (id : String) (failure : Option AppError) (only : Option String) :
    Binding application :=
  .event fun event =>
    .perform (.note (id ++ ":" ++ event.id)) fun _ =>
      .done (match failure with
        | some error => if only.all (· == event.id) then .error error else .ok ()
        | none => .ok ())

end Cqrs.Bank
