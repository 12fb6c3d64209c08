/-
# ListExpansion.Proofs.Resolver.Failure -- a lookup that fails

`Fails` says with which error a session cannot be resolved: the list's, or that of the
account once the list has members.  A query that is no text with the address in it is a
failure like any other (`fails_unfilled`).

Nobody is added then, not even the members that had been found.  And a failure is over
with the message that met it: the resolver and the directory are where finding no entries
would have left them (`ofLookups_forgiving`), so that no later call can tell
(`failure_harmless`).
-/
import ListExpansion.Proofs.Directory.Query
import ListExpansion.Proofs.Resolver.Expansion
import ListExpansion.Proofs.Resolver.History
import ListExpansion.Proofs.Resolver.Resolution

namespace ListExpansion

set_option autoImplicit false

variable {σ : Type}

theorem DirectoryError.isResourceExhaustion_iff (error : DirectoryError) :
    error.isResourceExhaustion = true ↔ ∃ cause, error = .resourceExhausted cause := by
  cases error <;> simp [isResourceExhaustion]

/-- With the directory in `state`, a lookup for `session` fails with this error. -/
inductive Fails (directory : Directory σ) (lookups : Lookups) (state : σ) (session : Session) :
    DirectoryError → Prop
  | list {error : DirectoryError}
      (failed : (directory.lookUp lookups.list session.sender state).1.outcome = .error error) :
      Fails directory lookups state session error
  | account {members : AddressSet} {error : DirectoryError}
      (listed : (directory.lookUp lookups.list session.sender state).1.outcome = .ok members)
      (some_ : members.toList ≠ [])
      (failed : (directory.lookUp lookups.account session.account
        (directory.lookUp lookups.list session.sender state).2).1.outcome = .error error) :
      Fails directory lookups state session error

/-- A list query that cannot be filled in fails before the directory is asked. -/
theorem fails_unfilled (directory : Directory σ) {lookups : Lookups} (state : σ) {session : Session}
    (unfilled : ∀ search, ¬ lookups.list.Fills session.sender search) :
    ∃ field, Fails directory lookups state session (.encoding field) := by
  obtain ⟨field, failed⟩ := directory.lookUp_unfilled lookups.list session.sender unfilled state
  exact ⟨field, .list (congrArg (·.1.outcome) failed)⟩

/-- The same lookup, which finds no entries where `look` fails. -/
def forgiving (look : σ → Reply × σ) (state : σ) : Reply × σ :=
  let found := look state
  match found.1.outcome with
  | .ok _ => found
  | .error _ => (⟨.ok AddressSet.empty, found.1.events⟩, found.2)

section Forgiving

variable {look : σ → Reply × σ} {state : σ}

theorem forgiving_ok {found : AddressSet} (answered : (look state).1.outcome = .ok found) :
    forgiving look state = look state := by
  simp only [forgiving, answered]

theorem forgiving_error {error : DirectoryError} (failed : (look state).1.outcome = .error error) :
    forgiving look state = (⟨.ok AddressSet.empty, (look state).1.events⟩, (look state).2) := by
  simp only [forgiving, failed]

/-- It leaves the directory as the lookup itself does. -/
theorem forgiving_snd (look : σ → Reply × σ) (state : σ) :
    (forgiving look state).2 = (look state).2 := by
  cases answered : (look state).1.outcome with
  | ok found => rw [forgiving_ok answered]
  | error error => rw [forgiving_error answered]

end Forgiving

namespace Resolution

/-- A failure leaves the directory where finding no entries would have left it. -/
theorem ofLookups_forgiving (listing owning : σ → Reply × σ) (state : σ) :
    (ofLookups (forgiving listing) (forgiving owning) state).2 =
      (ofLookups listing owning state).2 := by
  cases listed : (listing state).1.outcome with
  | error error =>
      -- Without entries there is no list, so neither side looks the account up.
      have noEntries : (forgiving listing state).1.outcome = .ok AddressSet.empty := by
        rw [forgiving_error listed]
      rw [ofLookups_notAList noEntries rfl, ofLookups_listFailed listed]
      exact forgiving_snd listing state
  | ok members =>
      have listedToo : (forgiving listing state).1.outcome = .ok members := by
        rw [forgiving_ok listed, listed]
      cases none_ : members.isEmpty with
      | true =>
          rw [ofLookups_notAList listedToo none_, ofLookups_notAList listed none_]
          exact forgiving_snd listing state
      | false =>
          rw [ofLookups_listed listedToo none_, ofLookups_listed listed none_, forgiving_snd,
            forgiving_snd]

/-- A failure tells the mail server what its error asks for, and adds nobody. -/
theorem ofLookups_fails {directory : Directory σ} {lookups : Lookups} {state : σ}
    {session : Session} {error : DirectoryError} (fails : Fails directory lookups state session error) :
    (ofLookups (directory.lookUp lookups.list session.sender)
      (directory.lookUp lookups.account session.account) state).1 =
        ⟨error.verdict, AddressSet.empty⟩ := by
  cases fails with
  | list failed => rw [ofLookups_listFailed failed]
  | account listed some_ failed =>
      have found := Bool.eq_false_iff.2 (mt (AddressSet.isEmpty_iff _).1 some_)
      rw [ofLookups_accountFailed listed found failed]

end Resolution

namespace Resolver

/-- What the map does with the end of a transaction is all the same to what it was that
the lookups found. -/
theorem endBy_forgiving (listing owning : Session → σ → Reply × σ) (resolver : Resolver)
    (id : TransactionId) (state : σ) :
    (resolver.endBy (fun session => forgiving (listing session))
      (fun session => forgiving (owning session)) id state).2 =
        (resolver.endBy listing owning id state).2 := by
  unfold endBy
  split
  · rfl
  · next session _ =>
      exact congrArg (Prod.mk (resolver.leave id).1)
        (Resolution.ofLookups_forgiving (listing session) (owning session) state)

/-- What leaves the map leaves nothing of its own there, and all else as it was. -/
theorem mem_entries_leave (resolver : Resolver) (id : TransactionId)
    (entry : TransactionId × TransactionState) :
    entry ∈ (resolver.leave id).1.transactions.entries ↔
      entry ∈ resolver.transactions.entries ∧ entry.1 ≠ id := by
  have idle : ((resolver.transactions.state id).transition .endOfTransaction).1 = .idle := by
    cases resolver.transactions.state id <;> rfl
  show entry ∈ (resolver.transactions.set id
    ((resolver.transactions.state id).transition .endOfTransaction).1).entries ↔ _
  rw [idle]
  simp [Transactions.set, Transactions.forget]

/-- **A lookup that fails adds nobody and corrupts nothing.**  The message goes on as it is
unless it is memory that is wanting, and only then does the mail server try again later.
The session is gone, every other transaction keeps its own, and all later calls answer as
they would had the lookup that failed found no entries. -/
theorem failure_harmless {directory : Directory σ} {resolver : Resolver} {id : TransactionId}
    {session : Session} {state : σ} {error : DirectoryError}
    (captured : resolver.transactions.state id = .captured session)
    (fails : Fails directory resolver.lookups state session error) :
    let ended := resolver.onEndOfTransaction directory id state
    let forgiven := resolver.endBy
      (fun session => forgiving (directory.lookUp resolver.lookups.list session.sender))
      (fun session => forgiving (directory.lookUp resolver.lookups.account session.account)) id state
    ended.1.recipients.toList = [] ∧
      (ended.1.verdict = .temporaryFailure ↔ ∃ cause, error = .resourceExhausted cause) ∧
      (ended.1.verdict = .proceed ↔ ∀ cause, error ≠ .resourceExhausted cause) ∧
      ended.2.1.transactions.state id = .idle ∧
      (∀ entry, entry ∈ ended.2.1.transactions.entries ↔
        entry ∈ resolver.transactions.entries ∧ entry.1 ≠ id) ∧
      (∀ other, other ≠ id →
        ended.2.1.transactions.state other = resolver.transactions.state other) ∧
      ∀ later, (ended.2.1.run directory ended.2.2.1 later).1 =
        (forgiven.2.1.run directory forgiven.2.2 later).1 := by
  intro ended forgiven
  have whole := onEndOfTransaction_endBy directory resolver id state
  have handed : (resolver.leave id).2 = some session :=
    (resolver.transactions.advance_endOfTransaction session).2 captured
  have resolution : ended.1 = ⟨error.verdict, AddressSet.empty⟩ := by
    refine (congrArg Prod.fst whole).trans ?_
    simp only [endBy, handed]
    exact Resolution.ofLookups_fails fails
  have left : ended.2.1 = (resolver.leave id).1 :=
    onEndOfTransaction_resolver directory resolver id state
  have wanting := error.isResourceExhaustion_iff
  refine ⟨by rw [resolution]; rfl, ?_, ?_, ?_, ?_, ?_, fun later => ?_⟩
  · rw [resolution, ← wanting, DirectoryError.verdict]
    cases error.isResourceExhaustion <;> simp
  · rw [resolution, ← not_exists, ← wanting, DirectoryError.verdict]
    cases error.isResourceExhaustion <;> simp
  · rw [left]
    exact resolver.state_call id .endOfTransaction
  · rw [left]
    exact resolver.mem_entries_leave id
  · intro other ne
    rw [left]
    exact resolver.transactions.state_advance_of_ne ne _
  · have same : forgiven.2 = (ended.2.1, ended.2.2.1) :=
      (endBy_forgiving _ _ resolver id state).trans (congrArg Prod.snd whole).symm
    rw [same]

/-! ## An account that cannot be looked up -/

namespace Example

/-- The list is there, but no memory for what the account owns. -/
def failing : PreparedDirectory :=
  directory.prepare "ou=people" "(uid=al)" (.failure (.resourceExhausted .allocatorRefused))

theorem failure_harmless_team :
    let ended := resolver.onEndOfTransaction PreparedDirectory.asDirectory ⟨0⟩ failing
    resolver.transactions.state ⟨0⟩ = .captured session ∧
      Fails PreparedDirectory.asDirectory lookups failing session
        (.resourceExhausted .allocatorRefused) ∧
      ended.1.recipients.toList = [] ∧ ended.1.verdict = .temporaryFailure := by
  have fails : Fails PreparedDirectory.asDirectory lookups failing session
      (.resourceExhausted .allocatorRefused) := by
    have listed : (PreparedDirectory.asDirectory.lookUp lookups.list session.sender
        failing).1.outcome = .ok members := rfl
    exact .account listed (by simp [members, AddressSet.ofList, AddressSet.toList]) rfl
  obtain ⟨nobody, verdict, -⟩ := @failure_harmless _ _ resolver ⟨0⟩ _ _ _ rfl fails
  exact ⟨rfl, fails, nobody, verdict.2 ⟨_, rfl⟩⟩

end Example

end Resolver

end ListExpansion
