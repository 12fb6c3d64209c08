/-
# ListExpansion.Proofs.Transaction.State -- the map as one state machine for each transaction

An event that is fed to the map moves the transaction it is for as
`TransactionState.transition` says and moves no other (`state_advance_self`,
`state_advance_of_ne`).  A whole sequence of events therefore does to a transaction
what its own events alone do, in their order (`state_feed`): with an absent entry read
as idle, the map refines one state machine for each transaction.

`WellKept` is what the map never loses: an entry for each transaction at most, and
none for an idle one.
-/
import ListExpansion.Transaction.State

namespace ListExpansion

set_option autoImplicit false

/-- The state after a sequence of events. -/
def TransactionState.feed (state : TransactionState) (events : List TransactionEvent) :
    TransactionState :=
  events.foldl (fun reached event => (reached.transition event).1) state

namespace Transactions

variable (transactions : Transactions) {id other : TransactionId}

/-! ## Reading after writing -/

theorem state_forget_self : (transactions.forget id).state id = .idle := by
  have absent : (transactions.forget id).entries.lookup id = none := by
    rw [List.lookup_eq_none_iff]
    intro entry kept
    have different : entry.1 ≠ id := of_decide_eq_true (List.mem_filter.1 kept).2
    exact bne_iff_ne.2 different.symm
  rw [state, absent, Option.getD_none]

theorem state_forget_of_ne (ne : other ≠ id) :
    (transactions.forget id).state other = transactions.state other := by
  obtain ⟨entries⟩ := transactions
  simp only [state, forget]
  congr 1
  induction entries with
  | nil => rfl
  | cons entry entries ih =>
      obtain ⟨key, kept⟩ := entry
      by_cases same : key = id
      · rw [List.filter_cons_of_neg (by simp [same]), ih, List.lookup_cons, same,
          beq_false_of_ne ne]
      · rw [List.filter_cons_of_pos (by simp [same]), List.lookup_cons, ih, List.lookup_cons]

theorem state_set_self (state_ : TransactionState) : (transactions.set id state_).state id = state_ := by
  cases state_ with
  | idle => exact transactions.state_forget_self
  | captured session => simp [set, state]

theorem state_set_of_ne (ne : other ≠ id) (state_ : TransactionState) :
    (transactions.set id state_).state other = transactions.state other := by
  cases state_ with
  | idle => exact transactions.state_forget_of_ne ne
  | captured session =>
      have skipped : (transactions.set id (.captured session)).state other =
          (transactions.forget id).state other := by
        simp [set, state, List.lookup_cons, beq_false_of_ne ne]
      rw [skipped, transactions.state_forget_of_ne ne]

theorem state_advance_self (id : TransactionId) (event : TransactionEvent) :
    (transactions.advance id event).1.state id = ((transactions.state id).transition event).1 :=
  transactions.state_set_self _

/-- No event reaches a transaction other than its own. -/
theorem state_advance_of_ne (ne : other ≠ id) (event : TransactionEvent) :
    (transactions.advance id event).1.state other = transactions.state other :=
  transactions.state_set_of_ne ne _

/-- An end of transaction hands over what the map held. -/
theorem advance_endOfTransaction (session : Session) :
    (transactions.advance id .endOfTransaction).2 = some session ↔
      transactions.state id = .captured session := by
  rw [advance]
  cases transactions.state id <;> simp [TransactionState.transition]

/-! ## What is kept -/

/-- Each transaction has one entry at most, and an idle one has none. -/
structure WellKept : Prop where
  nodup : (transactions.entries.map Prod.fst).Nodup
  busy : ∀ entry ∈ transactions.entries, entry.2 ≠ .idle

theorem wellKept_empty : empty.WellKept := ⟨List.nodup_nil, by simp [empty]⟩

section Kept

variable {transactions}

theorem wellKept_forget (kept : transactions.WellKept) : (transactions.forget id).WellKept where
  nodup := kept.nodup.sublist (List.filter_sublist.map Prod.fst)
  busy entry member := kept.busy entry (List.mem_filter.1 member).1

theorem wellKept_set (kept : transactions.WellKept) (state_ : TransactionState) :
    (transactions.set id state_).WellKept := by
  have others : (transactions.forget id).WellKept := wellKept_forget kept
  cases state_ with
  | idle => exact others
  | captured session =>
      refine ⟨?_, ?_⟩
      · simp only [set, List.map_cons, List.nodup_cons]
        refine ⟨fun member => ?_, others.nodup⟩
        obtain ⟨entry, isKept, rfl⟩ := List.mem_map.1 member
        simpa using (List.mem_filter.1 isKept).2
      · intro entry member
        rcases List.mem_cons.1 member with rfl | isKept
        · simp
        · exact others.busy entry isKept

theorem wellKept_advance (kept : transactions.WellKept) (event : TransactionEvent) :
    (transactions.advance id event).1.WellKept :=
  wellKept_set kept _

/-- A well kept map has an entry for just the transactions that are not idle. -/
theorem mem_entries_iff (kept : transactions.WellKept) (state_ : TransactionState) :
    (id, state_) ∈ transactions.entries ↔ transactions.state id = state_ ∧ state_ ≠ .idle := by
  obtain ⟨entries⟩ := transactions
  simp only [state]
  constructor
  · intro member
    refine ⟨?_, kept.busy _ member⟩
    obtain ⟨before, after, rfl⟩ := List.append_of_mem member
    have found : (before ++ (id, state_) :: after).lookup id = some state_ := by
      rw [List.lookup_eq_some_iff]
      refine ⟨before, after, rfl, fun entry earlier => ?_⟩
      have nodup := kept.nodup
      simp only [List.map_append, List.map_cons, List.nodup_append] at nodup
      rw [bne_iff_ne]
      exact (nodup.2.2 entry.1 (List.mem_map_of_mem earlier) id List.mem_cons_self).symm
    rw [found, Option.getD_some]
  · rintro ⟨found, notIdle⟩
    cases looked : entries.lookup id with
    | none => exact absurd (by simpa [looked] using found.symm) notIdle
    | some there =>
        obtain ⟨before, after, rfl, _⟩ := List.lookup_eq_some_iff.1 looked
        have same : there = state_ := by simpa [looked] using found
        simp [same]

end Kept

/-! ## Sequences of events -/

/-- The map after a sequence of events, each for one transaction. -/
def feed (transactions : Transactions) (events : List (TransactionId × TransactionEvent)) :
    Transactions :=
  events.foldl (fun reached event => (reached.advance event.1 event.2).1) transactions

theorem wellKept_feed {transactions : Transactions} (kept : transactions.WellKept)
    (events : List (TransactionId × TransactionEvent)) : (transactions.feed events).WellKept := by
  induction events generalizing transactions with
  | nil => exact kept
  | cons event events ih => exact ih (wellKept_advance kept event.2)

/-- Its own events are all that a transaction notices. -/
theorem state_feed (transactions : Transactions)
    (events : List (TransactionId × TransactionEvent)) (id : TransactionId) :
    (transactions.feed events).state id =
      (transactions.state id).feed ((events.filter fun event => event.1 = id).map Prod.snd) := by
  induction events generalizing transactions with
  | nil => rfl
  | cons event events ih =>
      obtain ⟨other, event⟩ := event
      have first := ih (transactions.advance other event).1
      by_cases same : other = id
      · subst same
        rw [state_advance_self] at first
        simpa [feed, TransactionState.feed] using first
      · rw [state_advance_of_ne _ (Ne.symm same)] at first
        simpa [feed, TransactionState.feed, same] using first

end Transactions

end ListExpansion
