import Cqrs.Bank.Audit
import Cqrs.Json.Parser
import Cqrs.Json.Printer
import Cqrs.Record.Bank
import Cqrs.Record.Declaration
import Cqrs.Record.Sample
import Cqrs.Proofs.Frame
import Cqrs.Proofs.Growth
import Cqrs.Proofs.Bank.Atomicity
import Cqrs.Proofs.Bank.Commuting
import Cqrs.Proofs.Bank.ExactDelivery
import Cqrs.Proofs.Bank.Ledger
import Cqrs.Proofs.Bank.Retrieval
import Cqrs.Proofs.Bank.Outcome
import Cqrs.Proofs.Deferral
import Cqrs.Proofs.LateBinding
import Cqrs.Proofs.Batch
import Cqrs.Proofs.Scoping
import Cqrs.Proofs.Layers
import Cqrs.Proofs.Leftover
import Cqrs.Proofs.Retention
import Cqrs.Proofs.Repository
import Cqrs.Proofs.SessionProtocol
import Cqrs.Proofs.Bank.Transition
import Cqrs.Proofs.Bank.BalanceFilter
import Cqrs.Proofs.Filter.Search
import Cqrs.Proofs.Bank.Payload
import Cqrs.Proofs.Filter.Symmetry
import Cqrs.Proofs.Declaration.Derives
import Cqrs.Proofs.Declaration.Arguments
import Cqrs.Proofs.Event.Log
