/-
# QueryBus -- answering queries

A query goes to the one handler that is registered for its kind and bound in the
container, and its answer comes back.
-/
import Cqrs.Broker.Delivery

namespace Cqrs.Broker

set_option autoImplicit false

variable {A : Application}

/-- Puts a question to the handler registered for its kind. -/
def ask (depth : Nat) (context : Context) (kind : A.Query) (question : A.Question kind) :
    Act A (Except AppError (A.Answer kind)) := fun broker =>
  match broker.queries.get? kind with
  | none =>
      (some (.error (.handlerNotFound .query (A.queryName kind))),
        broker.record (.logged ⟨.warn, "no query handler registered",
          [("query", .text (A.queryName kind))]⟩))
  | some handler =>
      match broker.resolve handler with
      | .error error => (some (.error error), broker)
      | .ok binding =>
          match binding.asQuery? kind with
          | some answer =>
              (answer context question).run (flush depth)
                (broker.record (.asked handler kind question))
          | none => (some (.error (.invalidHandler .query (A.queryName kind))), broker)

end Cqrs.Broker
