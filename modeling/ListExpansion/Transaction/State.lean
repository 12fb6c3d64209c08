/-
# ListExpansion.Transaction.State -- the life of one transaction

A transaction is idle until an authenticated sender is captured and idle again
once it ends or is aborted.  A captured session is handed on exactly when the
transaction ends.

`Transactions` keeps the states of all transactions; one that it has no entry for is
idle.  Every event takes the state out of the map, and only what is not idle then is
put back.
-/
import ListExpansion.Transaction.Session
import ListExpansion.Log

namespace ListExpansion

set_option autoImplicit false

inductive TransactionState where
  | idle
  | captured (session : Session)
  deriving DecidableEq, Repr

inductive TransactionEvent where
  /-- An authenticated sender was named. -/
  | capture (session : Session)
  /-- The message is complete. -/
  | endOfTransaction
  /-- The transaction or its connection went away, or its sender is of no use. -/
  | abort
  deriving DecidableEq, Repr

namespace TransactionState

/-- The state after `event`, and the session that has to be resolved, if any.  A
second sender takes the place of the first. -/
def transition : TransactionState → TransactionEvent → TransactionState × Option Session
  | _, .capture session => (.captured session, none)
  | .captured session, .endOfTransaction => (.idle, some session)
  | .idle, .endOfTransaction => (.idle, none)
  | _, .abort => (.idle, none)

end TransactionState

/-- The states by transaction, each transaction at most once. -/
structure Transactions where
  entries : List (TransactionId × TransactionState)

namespace Transactions

def empty : Transactions := ⟨[]⟩

/-- How many transactions have a captured sender. -/
def pending (transactions : Transactions) : Nat := transactions.entries.length

def state (transactions : Transactions) (id : TransactionId) : TransactionState :=
  (transactions.entries.lookup id).getD .idle

def forget (transactions : Transactions) (id : TransactionId) : Transactions :=
  ⟨transactions.entries.filter fun (other, _) => other ≠ id⟩

/-- An idle transaction has no entry. -/
def set (transactions : Transactions) (id : TransactionId) : TransactionState → Transactions
  | .idle => transactions.forget id
  | .captured session => ⟨(id, .captured session) :: (transactions.forget id).entries⟩

/-- Feeds `event` to the transaction `id` alone. -/
def advance (transactions : Transactions) (id : TransactionId) (event : TransactionEvent) :
    Transactions × Option Session :=
  let (state, resolve) := (transactions.state id).transition event
  (transactions.set id state, resolve)

end Transactions

end ListExpansion
