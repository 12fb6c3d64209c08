/-
# ListExpansion.Proofs.Resolver.Expansion -- whom the end of a transaction adds

`Expansion members owned` is the specification: the members that are not owned, each
once and in ascending order, whatever the order and the repetitions of the two
collections.  `expansion_sweep` says that sorting both and sweeping one by the other
computes it.

`recipients_exact` follows one end of transaction through its stages to that result.
-/
import ListExpansion.Proofs.Address.Sweep
import ListExpansion.Proofs.Resolver.Stage
import ListExpansion.Proofs.Transaction.State
import ListExpansion.Directory.Prepared

namespace ListExpansion

set_option autoImplicit false

/-- The members that are not owned, each once and in ascending order. -/
structure Expansion (members owned : AddressSet) (recipients : List Bytes) : Prop where
  strict : recipients.Pairwise (· < ·)
  mem_iff : ∀ address,
    address ∈ recipients ↔ address ∈ members.toList ∧ address ∉ owned.toList

/-- There is one such list of recipients. -/
theorem Expansion.unique {members owned : AddressSet} {one other : List Bytes}
    (first : Expansion members owned one) (second : Expansion members owned other) :
    one = other := by
  refine Bytes.eq_of_strict first.strict second.strict fun address => ?_
  rw [first.mem_iff, second.mem_iff]

theorem expansion_sweep (members owned : AddressSet) :
    Expansion members owned (members.sort.sweep owned.sort).toList where
  strict := AddressSet.sweep_strict members.sort_isSorted owned.sort_isSorted
  mem_iff address := by
    rw [AddressSet.mem_sweep members.sort_isSorted owned.sort_isSorted, AddressSet.mem_sort,
      AddressSet.mem_sort]

namespace Stage

variable {σ : Type} {directory : Directory σ} {lookups : Lookups} (id : TransactionId) {state : σ}
  {session : Session} {members owned : AddressSet}

theorem step_listSearch_ok
    (listed : (directory.lookUp lookups.list session.sender state).1.outcome = .ok members) :
    (listSearch session).step directory lookups id state =
      let after := directory.lookUp lookups.list session.sender state
      if members.isEmpty then
        (.settled (.adding members), after.2, after.1.events ++
          [.own .debug s!"{Utf8.lossy session.sender} is not a mailing list"])
      else (.accountSearch session members.sort, after.2, after.1.events) := by
  simp only [step, listed]

theorem step_accountSearch_ok
    (accounted : (directory.lookUp lookups.account session.account state).1.outcome = .ok owned) :
    (accountSearch session members).step directory lookups id state =
      let after := directory.lookUp lookups.account session.account state
      (.finish session members owned.sort, after.2, after.1.events) := by
  simp only [step, accounted]

/-- With both lookups answered, three steps lead to the sweep. -/
theorem complete_listSearch_ok
    (listed : (directory.lookUp lookups.list session.sender state).1.outcome = .ok members)
    (some_ : members.isEmpty = false)
    (accounted : (directory.lookUp lookups.account session.account
      (directory.lookUp lookups.list session.sender state).2).1.outcome = .ok owned) :
    ((listSearch session).complete directory lookups id state).1 =
      .adding (members.sort.sweep owned.sort) := by
  rw [complete_step, step_listSearch_ok id listed]
  simp only [some_, Bool.false_eq_true, if_false]
  rw [complete_step, step_accountSearch_ok id accounted]
  simp only []
  rw [complete_step]
  simp only [step, complete_settled]

theorem complete_listSearch_empty
    (listed : (directory.lookUp lookups.list session.sender state).1.outcome = .ok members)
    (none_ : members.isEmpty = true) :
    ((listSearch session).complete directory lookups id state).1 = .adding members := by
  rw [complete_step, step_listSearch_ok id listed]
  simp only [none_, if_true, complete_settled]

end Stage

namespace Resolver

section Captured

variable {σ : Type} {directory : Directory σ} {resolver : Resolver} {id : TransactionId}

/-- **Exactly the members that the account does not own are added**, each once and in
ascending order, however the directory repeats and arranges what it found.  The
subtraction finds both of its operands sorted. -/
theorem recipients_exact {session : Session} {state : σ} {members owned : AddressSet}
    (captured : resolver.transactions.state id = .captured session)
    (listed : (directory.lookUp resolver.lookups.list session.sender state).1.outcome =
      .ok members)
    (accounted : members.toList ≠ [] →
      (directory.lookUp resolver.lookups.account session.account
        (directory.lookUp resolver.lookups.list session.sender state).2).1.outcome = .ok owned) :
    let resolution := (resolver.onEndOfTransaction directory id state).1
    resolution.verdict = .proceed ∧
      resolution.recipients.toList.Pairwise (· < ·) ∧
      (∀ address, address ∈ resolution.recipients.toList ↔
        address ∈ members.toList ∧ address ∉ owned.toList) ∧
      (members.toList = [] → resolution.recipients.toList = []) ∧
      (members.toList ≠ [] →
        members.sort.subtract? owned.sort = .ok resolution.recipients) := by
  intro resolution
  have resolved : resolution = ((Stage.listSearch session).complete directory resolver.lookups
      id state).1 := by
    have handed := (resolver.transactions.advance_endOfTransaction session).2 captured
    exact congrArg Prod.fst (onEndOfTransaction_handed directory state handed)
  by_cases none_ : members.toList = []
  · have unchanged : resolution = .adding members :=
      resolved.trans (Stage.complete_listSearch_empty id listed (members.isEmpty_iff.2 none_))
    rw [unchanged]
    simp [Resolution.adding, none_]
  · have expanded : resolution = .adding (members.sort.sweep owned.sort) := by
      have some_ : members.isEmpty = false := by
        rw [← Bool.not_eq_true, members.isEmpty_iff]
        exact none_
      exact resolved.trans (Stage.complete_listSearch_ok id listed some_ (accounted none_))
    have expansion := expansion_sweep members owned
    rw [expanded]
    exact ⟨rfl, expansion.strict, expansion.mem_iff, fun empty => absurd empty none_, fun _ =>
      AddressSet.subtract?_sorted members.sort_isSorted owned.sort_isSorted⟩

end Captured

/-! ## A list and an account -/

namespace Example

def lookups : Lookups :=
  ⟨⟨"ou=lists,dc=%d", "(mail=%u)", "member"⟩, ⟨"ou=people", "(uid=%u)", "mail"⟩⟩

/-- The sender `t@x` on behalf of `al`. -/
def session : Session := ⟨[0x74, 0x40, 0x78], [0x61, 0x6C]⟩

def resolver : Resolver := ⟨lookups, ⟨[(⟨0⟩, .captured session)]⟩⟩

/-- Members with a repetition, a proper initial part, no octets at all and an octet above
127; the account owns one of them and an address that is no member. -/
def members : AddressSet := .ofList [[0x62], [0xFF, 0x61], [], [0x61], [0x62], [0xFF]]

def owned : AddressSet := .ofList [[0x63], [0x61], [0x61]]

def directory : PreparedDirectory :=
  (PreparedDirectory.empty.prepare "ou=lists,dc=x" "(mail=t@x)" (.values members.toList)).prepare
    "ou=people" "(uid=al)" (.values owned.toList)

/-- What the list and the account hold in common goes, what is left comes in order. -/
theorem recipients_exact_team :
    let listing := PreparedDirectory.asDirectory.lookUp lookups.list session.sender directory
    let resolution := (resolver.onEndOfTransaction PreparedDirectory.asDirectory ⟨0⟩ directory).1
    (resolver.transactions.state ⟨0⟩ = .captured session ∧
      listing.1.outcome = .ok members ∧
      (members.toList ≠ [] → (PreparedDirectory.asDirectory.lookUp lookups.account
        session.account listing.2).1.outcome = .ok owned)) ∧
      resolution.verdict = .proceed ∧
      resolution.recipients.toList.Pairwise (· < ·) ∧
      (∀ address, address ∈ resolution.recipients.toList ↔
        address ∈ members.toList ∧ address ∉ owned.toList) ∧
      (members.toList = [] → resolution.recipients.toList = []) ∧
      (members.toList ≠ [] →
        members.sort.subtract? owned.sort = .ok resolution.recipients) :=
  ⟨⟨rfl, rfl, fun _ => rfl⟩, @recipients_exact _ PreparedDirectory.asDirectory resolver ⟨0⟩ session
    directory members owned rfl rfl fun _ => rfl⟩

end Example

end Resolver

end ListExpansion
