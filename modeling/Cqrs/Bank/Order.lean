/-
# Bank.Order -- orders, and the state they are given to

The state of the bank is its accounts and what fresh identifiers come from.  A transition is
stamped before its account is saved, and a transfer has two transitions before it saves
either account: the stamp of a transition is told by how many before it are not saved yet
(`BankState.stampAfter`).  What a stamp is made of is used up once its account is saved
(`BankState.saveMoved`).
-/
import Cqrs.Bank.Account
import Cqrs.Supply

namespace Cqrs.Bank

set_option autoImplicit false

/-- The state of the bank: its accounts, and what fresh identifiers come from. -/
structure BankState where
  accounts : Store Account
  supply : Supply

/-- Money to pay into or out of an account. -/
structure MoneyOrder where
  account : String
  amount : Int64
  currency : String
deriving DecidableEq, Repr

/-- Money to move from an account to another. -/
structure TransferOrder where
  source : String
  target : String
  amount : Int64
  currency : String
deriving DecidableEq, Repr

/-- What accounts are called when one is missing. -/
def accountResource : String := "BankAccount"

/-- The two accounts of a transfer have to be different ones. -/
def checkApart (source target : AccountId) : Except DomainError Unit :=
  if source = target then .error (.invalidState "cannot transfer to the same account")
  else .ok ()

namespace BankState

/-- Identifiers and the moment for one transition, and the state after they are drawn. -/
def stamp (state : BankState) : Stamp × BankState :=
  let now := state.supply.now
  let (transactionId, supply) := state.supply.identifier transactionKind
  let (eventId, supply) := supply.identifier eventKind
  (⟨transactionId, eventId, now⟩, { state with supply := supply })

/-- The stamp of a transition that comes after so many others that are not saved yet. -/
def stampAfter : Nat → BankState → Stamp
  | 0, state => state.stamp.1
  | unsaved + 1, state => stampAfter unsaved state.stamp.2

def save (state : BankState) (account : Account) : BankState :=
  { state with accounts := state.accounts.save account }

/-- Saves an account that a transition moved, and uses up what its stamp is made of. -/
def saveMoved (state : BankState) (account : Account) : BankState :=
  state.stamp.2.save account

/-- The stored account with an identifier, which has to be there. -/
def obtain (state : BankState) (id : AccountId) : Except DomainError Account :=
  state.accounts.obtain accountResource id

end BankState

end Cqrs.Bank
