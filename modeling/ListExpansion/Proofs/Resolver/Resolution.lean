/-
# ListExpansion.Proofs.Resolver.Resolution -- an end of transaction in one piece

What resolving a session comes to, and where it leaves the directory, is a matter of what
its two lookups do (`Resolution.ofLookups`).  There a lookup is any function of the
directory's state, so that one can be put in another's place whatever query is behind it.

The stages, taken one after another, come to just that (`onEndOfTransaction_endBy`).
-/
import ListExpansion.Proofs.Resolver.Stage

namespace ListExpansion

set_option autoImplicit false

variable {σ : Type}

namespace Resolution

/-- What a session comes to whose list is looked up by `listing` and whose account by
`owning`. -/
def ofLookups (listing owning : σ → Reply × σ) (state : σ) : Resolution × σ :=
  let listed := listing state
  match listed.1.outcome with
  | .error error => (⟨error.verdict, AddressSet.empty⟩, listed.2)
  | .ok members =>
      if members.isEmpty then (.adding members, listed.2)
      else
        let accounted := owning listed.2
        match accounted.1.outcome with
        | .error error => (⟨error.verdict, AddressSet.empty⟩, accounted.2)
        | .ok owned => (.adding (members.sort.sweep owned.sort), accounted.2)

section OfLookups

variable {listing owning : σ → Reply × σ} {state : σ} {members owned : AddressSet}
  {error : DirectoryError}

theorem ofLookups_listFailed (failed : (listing state).1.outcome = .error error) :
    ofLookups listing owning state =
      (⟨error.verdict, AddressSet.empty⟩, (listing state).2) := by
  simp only [ofLookups, failed]

theorem ofLookups_notAList (listed : (listing state).1.outcome = .ok members)
    (none_ : members.isEmpty = true) :
    ofLookups listing owning state = (.adding members, (listing state).2) := by
  simp only [ofLookups, listed, none_, if_true]

theorem ofLookups_accountFailed (listed : (listing state).1.outcome = .ok members)
    (some_ : members.isEmpty = false)
    (failed : (owning (listing state).2).1.outcome = .error error) :
    ofLookups listing owning state =
      (⟨error.verdict, AddressSet.empty⟩, (owning (listing state).2).2) := by
  simp only [ofLookups, listed, some_, Bool.false_eq_true, if_false, failed]

theorem ofLookups_expanded (listed : (listing state).1.outcome = .ok members)
    (some_ : members.isEmpty = false)
    (accounted : (owning (listing state).2).1.outcome = .ok owned) :
    ofLookups listing owning state =
      (.adding (members.sort.sweep owned.sort), (owning (listing state).2).2) := by
  simp only [ofLookups, listed, some_, Bool.false_eq_true, if_false, accounted]

/-- Once the list is there the directory ends up where the account's lookup leaves it,
whatever comes of that. -/
theorem ofLookups_listed (listed : (listing state).1.outcome = .ok members)
    (some_ : members.isEmpty = false) :
    (ofLookups listing owning state).2 = (owning (listing state).2).2 := by
  cases accounted : (owning (listing state).2).1.outcome with
  | error error => rw [ofLookups_accountFailed listed some_ accounted]
  | ok owned => rw [ofLookups_expanded listed some_ accounted]

end OfLookups

end Resolution

variable (directory : Directory σ)

namespace Stage

variable (lookups : Lookups) (id : TransactionId) (session : Session) (state : σ)

/-- With the members there, the rest is up to the account. -/
theorem complete_accountSearch (members : AddressSet) :
    let accounted := directory.lookUp lookups.account session.account state
    let ended := (accountSearch session members.sort).complete directory lookups id state
    (ended.1, ended.2.1) =
      match accounted.1.outcome with
      | .error error => (⟨error.verdict, AddressSet.empty⟩, accounted.2)
      | .ok owned => (.adding (members.sort.sweep owned.sort), accounted.2) := by
  dsimp only
  rw [complete_step]
  cases accounted : (directory.lookUp lookups.account session.account state).1.outcome with
  | error error => simp only [step, accounted, failed_settled, complete_settled]
  | ok owned =>
      simp only [step, accounted]
      rw [complete_step]
      simp only [step, complete_settled]

theorem complete_ofLookups :
    let ended := (listSearch session).complete directory lookups id state
    (ended.1, ended.2.1) = Resolution.ofLookups (directory.lookUp lookups.list session.sender)
      (directory.lookUp lookups.account session.account) state := by
  dsimp only
  rw [complete_step, Resolution.ofLookups]
  cases listed : (directory.lookUp lookups.list session.sender state).1.outcome with
  | error error => simp only [step, listed, failed_settled, complete_settled]
  | ok members =>
      cases none_ : members.isEmpty with
      | true => simp only [step, listed, none_, if_true, complete_settled]
      | false =>
          simp only [step, listed, none_, Bool.false_eq_true, if_false]
          exact complete_accountSearch directory lookups id session _ members

end Stage

namespace Resolver

/-- The end of transaction `id` that looks the list of a session up by `listing` and its
account by `owning`. -/
def endBy (listing owning : Session → σ → Reply × σ) (resolver : Resolver) (id : TransactionId)
    (state : σ) : Resolution × Resolver × σ :=
  match (resolver.leave id).2 with
  | none => (.unchanged, (resolver.leave id).1, state)
  | some session =>
      let resolved := Resolution.ofLookups (listing session) (owning session) state
      (resolved.1, (resolver.leave id).1, resolved.2)

/-- An end of transaction looks up its session by the two queries. -/
theorem onEndOfTransaction_endBy (resolver : Resolver) (id : TransactionId) (state : σ) :
    let ended := resolver.onEndOfTransaction directory id state
    (ended.1, ended.2.1, ended.2.2.1) =
      resolver.endBy (fun session => directory.lookUp resolver.lookups.list session.sender)
        (fun session => directory.lookUp resolver.lookups.account session.account) id state := by
  intro ended
  cases left : (resolver.leave id).2 with
  | none => simp only [ended, onEndOfTransaction_idle directory state left, endBy, left]
  | some session =>
      have whole := Stage.complete_ofLookups directory resolver.lookups id session state
      simp only [ended, onEndOfTransaction_handed directory state left, endBy, left, ← whole]

end Resolver

end ListExpansion
