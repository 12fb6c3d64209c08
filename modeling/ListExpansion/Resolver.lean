/-
# ListExpansion.Resolver -- from a captured sender to added recipients

The resolver remembers the sender of each transaction and, when the transaction
ends, works out whom to add: the members of the list that sent, less the
addresses that the authenticated account owns.

Ending a transaction goes through stages (`Stage`), because the directory is asked
twice and other transactions go on meanwhile: leave the map, search the list,
search the account, finish.  `Resolver.leave` is the first step and `Stage.step`
each of the others; `Stage.complete` runs them to the end.

A directory that fails leaves the message as it is.  Only want of memory makes
the mail server try again later.
-/
import ListExpansion.Directory.Basic
import ListExpansion.Transaction.State

namespace ListExpansion

set_option autoImplicit false

/-- What the mail server is told about a transaction. -/
inductive Verdict where
  | proceed
  | temporaryFailure
  deriving DecidableEq, Repr

/-- The outcome of ending a transaction. -/
structure Resolution where
  verdict : Verdict
  recipients : AddressSet
  deriving DecidableEq

/-- The message goes on with these recipients added. -/
def Resolution.adding (recipients : AddressSet) : Resolution := ⟨.proceed, recipients⟩

/-- The message goes on as it is. -/
def Resolution.unchanged : Resolution := .adding AddressSet.empty

/-- The two lookups of a transaction. -/
structure Lookups where
  list : Query
  account : Query
  deriving DecidableEq, Repr

/-- How far the end of a transaction has come. -/
inductive Stage where
  | listSearch (session : Session)
  | accountSearch (session : Session) (members : AddressSet)
  | finish (session : Session) (members owned : AddressSet)
  | settled (resolution : Resolution)

namespace Stage

variable {σ : Type}

/-- How many steps are left. -/
def stepsLeft : Stage → Nat
  | .listSearch _ => 3
  | .accountSearch _ _ => 2
  | .finish _ _ _ => 1
  | .settled _ => 0

/-- A failed lookup adds nobody. -/
def failed (id : TransactionId) (session : Session) (error : DirectoryError) : Stage × List Event :=
  if error.isResourceExhaustion then
    (.settled ⟨.temporaryFailure, AddressSet.empty⟩, [.ownFor .error id error.message])
  else
    (.settled .unchanged,
      [.ownFor .error id s!"Not expanding {Utf8.lossy session.sender}: {error.message}"])

/-- One step of the end of transaction `id`. -/
def step (directory : Directory σ) (lookups : Lookups) (id : TransactionId) (state : σ) :
    Stage → Stage × σ × List Event
  | .listSearch session =>
      let (reply, state) := directory.lookUp lookups.list session.sender state
      match reply.outcome with
      | .error error =>
          let (stage, events) := failed id session error
          (stage, state, reply.events ++ events)
      | .ok members =>
          if members.isEmpty then
            (.settled (.adding members), state, reply.events ++
              [.own .debug s!"{Utf8.lossy session.sender} is not a mailing list"])
          else (.accountSearch session members.sort, state, reply.events)
  | .accountSearch session members =>
      let (reply, state) := directory.lookUp lookups.account session.account state
      match reply.outcome with
      | .error error =>
          let (stage, events) := failed id session error
          (stage, state, reply.events ++ events)
      | .ok owned => (.finish session members owned.sort, state, reply.events)
  | .finish session members owned =>
      let recipients := members.sweep owned
      (.settled (.adding recipients), state,
        [.own .info (s!"{Utf8.lossy session.sender} expands to {recipients.size} recipients for " ++
          Utf8.lossy session.account)])
  | .settled resolution => (.settled resolution, state, [])

theorem failed_stepsLeft (id : TransactionId) (session : Session) (error : DirectoryError) :
    (failed id session error).1.stepsLeft = 0 := by
  unfold failed; split <;> rfl

/-- Every step brings the end nearer. -/
theorem step_stepsLeft (directory : Directory σ) (lookups : Lookups) (id : TransactionId)
    (state : σ) (stage : Stage) :
    (stage.step directory lookups id state).1.stepsLeft ≤ stage.stepsLeft - 1 := by
  cases stage with
  | listSearch session =>
    simp only [step]
    split
    · next error _ => exact Nat.le_trans (Nat.le_of_eq (failed_stepsLeft id session error)) (Nat.zero_le _)
    · split <;> simp [stepsLeft]
  | accountSearch session members =>
    simp only [step]
    split
    · next error _ => exact Nat.le_trans (Nat.le_of_eq (failed_stepsLeft id session error)) (Nat.zero_le _)
    · simp [stepsLeft]
  | finish session members owned => simp [step, stepsLeft]
  | settled resolution => simp [step, stepsLeft]

/-- All steps that are left, one after another. -/
def complete (directory : Directory σ) (lookups : Lookups) (id : TransactionId) (state : σ)
    (stage : Stage) : Resolution × σ × List Event :=
  match stage with
  | .settled resolution => (resolution, state, [])
  | stage@(.listSearch _) | stage@(.accountSearch _ _) | stage@(.finish _ _ _) =>
      let next := stage.step directory lookups id state
      let (resolution, state, events) := complete directory lookups id next.2.1 next.1
      (resolution, state, next.2.2 ++ events)
termination_by stage.stepsLeft
decreasing_by
  all_goals
    have shrinks := step_stepsLeft directory lookups id state stage
    simp_all only [stepsLeft]
    omega

end Stage

/-- The two lookups and the senders captured so far. -/
structure Resolver where
  lookups : Lookups
  transactions : Transactions

namespace Resolver

variable {σ : Type}

def new (lookups : Lookups) : Resolver := ⟨lookups, .empty⟩

/-- How many transactions have a captured sender. -/
def pending (resolver : Resolver) : Nat := resolver.transactions.pending

def advance (resolver : Resolver) (id : TransactionId) (event : TransactionEvent) :
    Resolver × Option Session :=
  let (transactions, resolve) := resolver.transactions.advance id event
  ({ resolver with transactions }, resolve)

/-- An account counts when it is given and not empty. -/
def authenticated? : Option Bytes → Option Bytes
  | some account => if account.isEmpty then none else some account
  | none => none

/-- Records the sender of transaction `id`.  A sender that is not authenticated,
null or impossible to copy wipes out the one recorded before. -/
def onSender (grants : CapturedPart → Bool) (resolver : Resolver) (id : TransactionId)
    (sender : Bytes) (account : Option Bytes) : Verdict × Resolver × List Event :=
  match authenticated? account with
  | none =>
      (.proceed, (resolver.advance id .abort).1,
        [.incoming .debug id
          s!"Unauthenticated sender {Utf8.lossy sender}, nothing to expand"])
  | some account =>
      if (stripAngleBrackets sender).isEmpty then
        (.proceed, (resolver.advance id .abort).1,
          [.incoming .debug id "Null sender, nothing to expand"])
      else
        match Session.capture? grants sender account with
        | .ok session =>
            (.proceed, (resolver.advance id (.capture session)).1,
              [.incoming .debug id ("Captured " ++ session.describe)])
        | .error error =>
            (.temporaryFailure, (resolver.advance id .abort).1,
              [.ownFor .error id ("Unable to capture sender: " ++ error.message)])

/-- The first step of an end of transaction: the session, if one was captured,
leaves the map. -/
def leave (resolver : Resolver) (id : TransactionId) : Resolver × Option Session :=
  resolver.advance id .endOfTransaction

/-- Ends transaction `id` and works out whom to add. -/
def onEndOfTransaction (directory : Directory σ) (resolver : Resolver) (id : TransactionId)
    (state : σ) : Resolution × Resolver × σ × List Event :=
  match resolver.leave id with
  | (resolver, none) => (.unchanged, resolver, state, [])
  | (resolver, some session) =>
      let (resolution, state, events) :=
        (Stage.listSearch session).complete directory resolver.lookups id state
      (resolution, resolver, state, events)

/-- Forgets transaction `id` without resolving it. -/
def onAbort (resolver : Resolver) (id : TransactionId) : Resolver × List Event :=
  ((resolver.advance id .abort).1, [.incoming .trace id "Transaction aborted"])

end Resolver

end ListExpansion
