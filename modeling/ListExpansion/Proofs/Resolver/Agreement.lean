/-
# ListExpansion.Proofs.Resolver.Agreement -- the same resolution by two directories

A resolution asks of what a lookup found only which addresses are in it: two directories
that find the same for a session (`FindAlike`) come to the same verdict and the same
recipients (`resolution_agrees`), however each of them repeats and orders what it found.
For there is but one list of recipients (`Expansion.unique`).
-/
import ListExpansion.Proofs.Directory.Query
import ListExpansion.Proofs.Resolver.Expansion
import ListExpansion.Proofs.Resolver.Resolution

namespace ListExpansion

set_option autoImplicit false

variable {σ τ : Type}

/-- The same addresses were found, or none for the same reason. -/
inductive SameFound : Except DirectoryError AddressSet → Except DirectoryError AddressSet → Prop
  | failed (error : DirectoryError) : SameFound (.error error) (.error error)
  | found {one other : AddressSet}
      (same : ∀ address, address ∈ one.toList ↔ address ∈ other.toList) :
      SameFound (.ok one) (.ok other)

theorem SameFound.of_error {error : DirectoryError} {outcome : Except DirectoryError AddressSet}
    (same : SameFound (.error error) outcome) : outcome = .error error := by
  cases same
  rfl

theorem SameFound.of_ok {found : AddressSet} {outcome : Except DirectoryError AddressSet}
    (same : SameFound (.ok found) outcome) :
    ∃ other, outcome = .ok other ∧ ∀ address, address ∈ found.toList ↔ address ∈ other.toList := by
  cases same with
  | found same => exact ⟨_, rfl, same⟩

/-- Asked for the list of `session`, and then for its account if there is a list, the two
directories find the same. -/
structure FindAlike (left : Directory σ) (right : Directory τ) (lookups : Lookups)
    (session : Session) (s : σ) (t : τ) : Prop where
  list : ∀ listing, lookups.list.Fills session.sender listing →
    SameFound (left.search listing s).1.outcome (right.search listing t).1.outcome
  account : ∀ listing account members, lookups.list.Fills session.sender listing →
    lookups.account.Fills session.account account →
    (left.search listing s).1.outcome = .ok members → members.toList ≠ [] →
    SameFound (left.search account (left.search listing s).2).1.outcome
      (right.search account (right.search listing t).2).1.outcome

/-- A lookup finds what its search does, if there is one. -/
theorem sameFound_lookUp {left : Directory σ} {right : Directory τ} {query : Query}
    {address : Bytes} {s : σ} {t : τ}
    (same : ∀ search, query.Fills address search →
      SameFound (left.search search s).1.outcome (right.search search t).1.outcome) :
    SameFound (left.lookUp query address s).1.outcome (right.lookUp query address t).1.outcome := by
  unfold Directory.lookUp
  cases filled : query.searchFor address with
  | error error => exact .failed error
  | ok search => exact same search (Query.searchFor_eq_ok_iff.1 filled)

/-- Two resolutions tell the mail server the same. -/
structure Resolution.Agrees (one other : Resolution) : Prop where
  verdict : one.verdict = other.verdict
  recipients : one.recipients.toList = other.recipients.toList

theorem Resolution.Agrees.refl (resolution : Resolution) : resolution.Agrees resolution := ⟨rfl, rfl⟩

theorem AddressSet.isEmpty_congr {one other : AddressSet}
    (same : ∀ address, address ∈ one.toList ↔ address ∈ other.toList) :
    one.isEmpty = other.isEmpty := by
  rw [Bool.eq_iff_iff, AddressSet.isEmpty_iff, AddressSet.isEmpty_iff,
    List.eq_nil_iff_forall_not_mem, List.eq_nil_iff_forall_not_mem]
  simp only [same]

/-- Of the members and of what is owned only the addresses count. -/
theorem Expansion.congr {members others owned ownedToo : AddressSet} {recipients : List Bytes}
    (same : ∀ address, address ∈ members.toList ↔ address ∈ others.toList)
    (sameOwned : ∀ address, address ∈ owned.toList ↔ address ∈ ownedToo.toList)
    (expansion : Expansion members owned recipients) : Expansion others ownedToo recipients where
  strict := expansion.strict
  mem_iff address := by rw [expansion.mem_iff, same, sameOwned]

/-- Lookups that find the same lead to the same resolution. -/
theorem Resolution.ofLookups_agrees {listing owning : σ → Reply × σ}
    {listingToo owningToo : τ → Reply × τ} {s : σ} {t : τ}
    (lists : SameFound (listing s).1.outcome (listingToo t).1.outcome)
    (accounts : ∀ members, (listing s).1.outcome = .ok members → members.toList ≠ [] →
      SameFound (owning (listing s).2).1.outcome (owningToo (listingToo t).2).1.outcome) :
    (ofLookups listing owning s).1.Agrees (ofLookups listingToo owningToo t).1 := by
  cases listed : (listing s).1.outcome with
  | error error =>
      have listedToo := (listed ▸ lists).of_error
      rw [ofLookups_listFailed listed, ofLookups_listFailed listedToo]
      exact .refl _
  | ok members =>
      obtain ⟨others, listedToo, same⟩ := (listed ▸ lists).of_ok
      cases none_ : members.isEmpty with
      | true =>
          have noneToo := (AddressSet.isEmpty_congr same).symm.trans none_
          rw [ofLookups_notAList listed none_, ofLookups_notAList listedToo noneToo]
          exact ⟨rfl, (members.isEmpty_iff.1 none_).trans (others.isEmpty_iff.1 noneToo).symm⟩
      | false =>
          have someToo := (AddressSet.isEmpty_congr same).symm.trans none_
          have sameOwned := accounts members listed (mt members.isEmpty_iff.2 (by rw [none_]; simp))
          cases accounted : (owning (listing s).2).1.outcome with
          | error error =>
              have accountedToo := (accounted ▸ sameOwned).of_error
              rw [ofLookups_accountFailed listed none_ accounted,
                ofLookups_accountFailed listedToo someToo accountedToo]
              exact .refl _
          | ok owned =>
              obtain ⟨ownedToo, accountedToo, sameToo⟩ := (accounted ▸ sameOwned).of_ok
              rw [ofLookups_expanded listed none_ accounted,
                ofLookups_expanded listedToo someToo accountedToo]
              -- Both sweeps yield the expansion of the same two sets of addresses.
              have expansion := (expansion_sweep members owned).congr same sameToo
              exact ⟨rfl, expansion.unique (expansion_sweep others ownedToo)⟩

/-- Directories that find the same lead to the same resolution. -/
theorem Resolver.resolution_agrees {left : Directory σ} {right : Directory τ}
    {resolver : Resolver} {id : TransactionId} {s : σ} {t : τ}
    (alike : ∀ session, resolver.transactions.state id = .captured session →
      FindAlike left right resolver.lookups session s t) :
    (resolver.onEndOfTransaction left id s).1.Agrees (resolver.onEndOfTransaction right id t).1 := by
  have ofLeft := congrArg Prod.fst (onEndOfTransaction_endBy left resolver id s)
  have ofRight := congrArg Prod.fst (onEndOfTransaction_endBy right resolver id t)
  dsimp only at ofLeft ofRight
  rw [ofLeft, ofRight]
  cases handed : (resolver.leave id).2 with
  | none =>
      simp only [endBy, handed]
      exact .refl _
  | some session =>
      simp only [endBy, handed]
      have found := alike session ((resolver.transactions.advance_endOfTransaction session).1 handed)
      refine Resolution.ofLookups_agrees (sameFound_lookUp found.list) fun members listed some_ => ?_
      rcases left.lookUp_cases resolver.lookups.list session.sender with
        ⟨listing, fills, asks⟩ | ⟨unfilled, fails⟩
      · rw [asks s] at listed ⊢
        rw [right.lookUp_fills _ _ fills]
        exact sameFound_lookUp fun account fillsToo =>
          found.account listing account members fills fillsToo listed some_
      · obtain ⟨field, failed⟩ := fails s
        rw [failed] at listed
        cases listed

end ListExpansion
