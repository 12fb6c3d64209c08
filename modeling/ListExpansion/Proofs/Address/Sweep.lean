/-
# ListExpansion.Proofs.Address.Sweep -- what a subtraction leaves

A sweep reads its buffer once, from the left, and swaps what survives to the front.
On any operands it keeps its positions in bounds and the addresses it has not read
yet in place (`Sound`, `sound_step`), at every moment that it comes to (`Sound.reaches`).

On sorted operands its survivors are at every moment the addresses read so far that
the subtrahend lacks, in strictly ascending order (`Exact`, `exact_step`).  The
swaps leave displaced addresses between the survivors and the reading position, so
`Exact` speaks of the original addresses and of the survivors, never of that gap.

`mem_sweep` and `sweep_strict` say what is left when the sweep is over.
-/
import ListExpansion.Proofs.Address.Order
import Mathlib.Logic.Relation

namespace ListExpansion

set_option autoImplicit false

namespace Sweep

/-! ## One step -/

/-- A swap at and behind `i` leaves the first `i` addresses and brings that of `j` next
to them. -/
theorem take_swap {buffer : Array Bytes} {i j : Nat} (order : i ≤ j) {a : Bytes}
    (read : buffer[j]? = some a) :
    (buffer.swapIfInBounds i j).toList.take (i + 1) = buffer.toList.take i ++ [a] := by
  obtain ⟨inBounds, rfl⟩ := Array.getElem?_eq_some_iff.1 read
  have moved : (buffer.swapIfInBounds i j).toList[i]? = some buffer[j] := by
    rw [Array.getElem?_toList, Array.getElem?_eq_getElem (by simp; omega)]
    simp [inBounds]
  have before : (buffer.swapIfInBounds i j).toList.take i = buffer.toList.take i := by
    apply List.ext_getElem
    · simp
    · intro k swapped kept
      have inFront : k < i := Nat.lt_of_lt_of_le kept (List.length_take_le i _)
      have notFirst : k ≠ i := by omega
      have notSecond : k ≠ j := by omega
      simp [notFirst, notSecond]
  rw [List.take_add_one, before, moved, Option.toList_some]

/-- A swap at and before `j` leaves all that is behind `j`. -/
theorem drop_swap {buffer : Array Bytes} {i j : Nat} (order : i ≤ j) :
    (buffer.swapIfInBounds i j).toList.drop (j + 1) = buffer.toList.drop (j + 1) := by
  apply List.ext_getElem
  · simp
  · intro k swapped _
    have notFirst : j + 1 + k ≠ i := by omega
    have notSecond : j + 1 + k ≠ j := by omega
    simp [notFirst, notSecond]

/-- Everything a step can do. -/
theorem step_cases {remove : Array Bytes} {sweep sweep' : Sweep}
    (stepped : sweep.step remove = some sweep') :
    ∃ candidate, sweep.buffer[sweep.next]? = some candidate ∧
      ((remove[sweep.passed]? = some candidate ∧
          sweep' = { sweep with next := sweep.next + 1 }) ∨
        (∃ removed, remove[sweep.passed]? = some removed ∧ removed < candidate ∧
          sweep' = { sweep with passed := sweep.passed + 1 }) ∨
        ((∀ removed, remove[sweep.passed]? = some removed → candidate < removed) ∧
          sweep' = sweep.keep candidate)) := by
  unfold step at stepped
  split at stepped
  · cases stepped
  · next candidate read =>
      refine ⟨candidate, read, ?_⟩
      split at stepped
      · next exhausted =>
          cases stepped
          exact .inr (.inr ⟨by simp [exhausted], rfl⟩)
      · next removed readRemoved =>
          split at stepped
          · next same =>
              cases stepped
              rw [Bytes.compare_eq_iff] at same
              exact .inl ⟨by rw [readRemoved, same], rfl⟩
          · next greater =>
              cases stepped
              rw [Bytes.compare_gt_iff] at greater
              exact .inr (.inl ⟨removed, readRemoved, greater, rfl⟩)
          · next less =>
              cases stepped
              rw [Bytes.compare_lt_iff] at less
              refine .inr (.inr ⟨fun other found => ?_, rfl⟩)
              rw [readRemoved] at found
              cases found
              exact less

/-- A sweep stops at the end of its buffer only. -/
theorem step_eq_none {remove : Array Bytes} {sweep : Sweep}
    (stopped : sweep.step remove = none) : sweep.buffer.size ≤ sweep.next := by
  unfold step at stopped
  split at stopped
  · next read => exact Array.getElem?_eq_none_iff.1 read
  · split at stopped
    · cases stopped
    · split at stopped <;> cases stopped

/-- What every step keeps holds at the end, and no step is possible there. -/
theorem finish_rule {remove : Array Bytes} (holds : Sweep → Prop)
    (step : ∀ sweep sweep', holds sweep → sweep.step remove = some sweep' → holds sweep')
    (sweep : Sweep) (start : holds sweep) :
    holds (sweep.finish remove) ∧ (sweep.finish remove).step remove = none := by
  induction sweep using finish.induct remove with
  | case1 sweep stopped =>
      rw [finish, stopped]
      exact ⟨start, stopped⟩
  | case2 sweep sweep' stepped ih =>
      rw [finish, stepped]
      exact ih (step sweep sweep' start stepped)

/-! ## Any operands -/

/-- The positions are in bounds and what is to be read is as it was. -/
structure Sound (addresses : List Bytes) (sweep : Sweep) : Prop where
  kept_le : sweep.kept ≤ sweep.next
  next_le : sweep.next ≤ sweep.buffer.size
  unread : sweep.buffer.toList.drop sweep.next = addresses.drop sweep.next

theorem sound_start (buffer : Array Bytes) : Sound buffer.toList (start buffer) :=
  ⟨Nat.le_refl 0, Nat.zero_le _, rfl⟩

section Sound

variable {addresses : List Bytes} {sweep sweep' : Sweep} {candidate : Bytes}

/-- The next address is the original one. -/
theorem Sound.drop_eq (sound : Sound addresses sweep)
    (read : sweep.buffer[sweep.next]? = some candidate) :
    addresses.drop sweep.next = candidate :: addresses.drop (sweep.next + 1) := by
  rw [← Array.getElem?_toList] at read
  have unread := sound.unread
  rw [List.drop_eq_getElem?_toList_append, read] at unread
  have tails := congrArg (List.drop 1) unread
  simp only [Option.toList_some, List.singleton_append, List.drop_succ_cons,
    List.drop_drop] at tails
  rw [← unread, ← tails]
  rfl

theorem Sound.take_succ (sound : Sound addresses sweep)
    (read : sweep.buffer[sweep.next]? = some candidate) :
    addresses.take (sweep.next + 1) = addresses.take sweep.next ++ [candidate] := by
  have head : addresses[sweep.next]? = some candidate := by
    rw [← List.head?_drop, sound.drop_eq read, List.head?_cons]
  rw [List.take_add_one, head, Option.toList_some]

theorem next_lt_size (read : sweep.buffer[sweep.next]? = some candidate) :
    sweep.next < sweep.buffer.size :=
  (Array.getElem?_eq_some_iff.1 read).1

theorem sound_skip (sound : Sound addresses sweep)
    (read : sweep.buffer[sweep.next]? = some candidate) :
    Sound addresses { sweep with next := sweep.next + 1 } where
  kept_le := Nat.le_succ_of_le sound.kept_le
  next_le := next_lt_size read
  unread := by
    have tails := congrArg (List.drop 1) sound.unread
    simpa only [List.drop_drop] using tails

theorem sound_keep (sound : Sound addresses sweep)
    (read : sweep.buffer[sweep.next]? = some candidate) :
    Sound addresses (sweep.keep candidate) := by
  have skipped := sound_skip sound read
  unfold keep
  split
  · exact skipped
  · refine ⟨Nat.succ_le_succ sound.kept_le, ?_, ?_⟩
    · rw [Array.size_swapIfInBounds]
      exact skipped.next_le
    · rw [drop_swap sound.kept_le]
      exact skipped.unread

/-- No step of a sweep leaves its bounds or disturbs what is unread, whatever the
operands are. -/
theorem sound_step {remove : Array Bytes} (sound : Sound addresses sweep)
    (stepped : sweep.step remove = some sweep') : Sound addresses sweep' := by
  obtain ⟨candidate, read, ⟨_, rfl⟩ | ⟨_, _, _, rfl⟩ | ⟨_, rfl⟩⟩ := step_cases stepped
  · exact sound_skip sound read
  · exact ⟨sound.kept_le, sound.next_le, sound.unread⟩
  · exact sound_keep sound read

/-- `later` comes of `sweep` by steps. -/
def Reaches (remove : Array Bytes) : (sweep later : Sweep) → Prop :=
  Relation.ReflTransGen fun sweep later => sweep.step remove = some later

/-- So nothing does at any moment of a sweep. -/
theorem Sound.reaches {remove : Array Bytes} {later : Sweep} (sound : Sound addresses sweep)
    (reached : Reaches remove sweep later) : Sound addresses later := by
  induction reached with
  | refl => exact sound
  | tail _ stepped ih => exact sound_step ih stepped

/-- What is kept is the survivors so far and, unless it repeats the last of them, the
candidate. -/
theorem survivors_keep (sound : Sound addresses sweep)
    (read : sweep.buffer[sweep.next]? = some candidate) :
    (sweep.keep candidate).survivors.toList =
      if sweep.survivors.toList.getLast? = some candidate then sweep.survivors.toList
      else sweep.survivors.toList ++ [candidate] := by
  have inBounds := next_lt_size read
  have kept_le := sound.kept_le
  have last : sweep.survivors.toList.getLast? = some candidate ↔
      sweep.kept ≠ 0 ∧ sweep.buffer[sweep.kept - 1]? = some candidate := by
    by_cases none_ : sweep.kept = 0
    · simp [survivors, none_]
    · have shorter : min sweep.kept sweep.buffer.size - 1 = sweep.kept - 1 := by omega
      have inside : sweep.kept - 1 < sweep.kept := by omega
      simp [survivors, none_, List.getLast?_eq_getElem?, shorter, inside]
  simp only [last]
  unfold keep
  split
  · rfl
  · simpa [survivors] using take_swap kept_le read

end Sound

/-! ## Sorted operands -/

/-- The survivors are the addresses read so far that `remove` lacks, each once and in
order, and what of `remove` was passed cannot occur any more. -/
structure Exact (addresses : List Bytes) (remove : Array Bytes) (sweep : Sweep) : Prop extends
    Sound addresses sweep where
  strict : sweep.survivors.toList.Pairwise (· < ·)
  mem_iff : ∀ a, a ∈ sweep.survivors.toList ↔ a ∈ addresses.take sweep.next ∧ a ∉ remove
  passed_lt : ∀ removed ∈ remove.toList.take sweep.passed,
    ∀ a ∈ addresses.drop sweep.next, removed < a

theorem exact_start (buffer remove : Array Bytes) : Exact buffer.toList remove (start buffer) where
  toSound := sound_start buffer
  strict := by simp [start, survivors]
  mem_iff := by simp [start, survivors]
  passed_lt := by simp [start]

/-- A strictly ascending list that does not end in `c`, but in nothing greater, stays
below `c`. -/
theorem lt_of_getLast?_ne {xs : List Bytes} {c : Bytes} (strict : xs.Pairwise (· < ·))
    (atMost : ∀ a ∈ xs, a ≤ c) (ends : xs.getLast? ≠ some c) : ∀ a ∈ xs, a < c := by
  rcases List.eq_nil_or_concat xs with rfl | ⟨init, last, rfl⟩
  · simp
  · simp only [List.concat_eq_append, List.getLast?_concat, ne_eq, Option.some.injEq] at *
    have lastLess : last < c := Std.lt_of_le_of_ne (atMost last (by simp)) ends
    intro a member
    rcases List.mem_append.1 member with inInit | isLast
    · have less := (List.pairwise_append.1 strict).2.2 a inInit last (by simp)
      exact Std.lt_trans less lastLess
    · rwa [List.mem_singleton.1 isLast]

section Exact

variable {addresses : List Bytes} {remove : Array Bytes} {sweep sweep' : Sweep} {candidate : Bytes}

/-- Nothing unread comes before the next address. -/
theorem next_least (sorted : addresses.Pairwise (· ≤ ·)) (sound : Sound addresses sweep)
    (read : sweep.buffer[sweep.next]? = some candidate) :
    ∀ a ∈ addresses.drop sweep.next, candidate ≤ a := by
  have ordered := sorted.drop (i := sweep.next)
  rw [sound.drop_eq read] at ordered ⊢
  intro a member
  rcases List.mem_cons.1 member with rfl | later
  · exact Std.le_refl a
  · exact List.rel_of_pairwise_cons ordered later

/-- Nothing that was read comes behind the next address. -/
theorem read_le (sorted : addresses.Pairwise (· ≤ ·)) (sound : Sound addresses sweep)
    (read : sweep.buffer[sweep.next]? = some candidate) :
    ∀ a ∈ addresses.take sweep.next, a ≤ candidate := by
  rw [← List.take_append_drop sweep.next addresses, List.pairwise_append] at sorted
  intro a member
  exact sorted.2.2 a member candidate (by rw [sound.drop_eq read]; exact List.mem_cons_self)

theorem exact_skip (good : Exact addresses remove sweep)
    (read : sweep.buffer[sweep.next]? = some candidate)
    (same : remove[sweep.passed]? = some candidate) :
    Exact addresses remove { sweep with next := sweep.next + 1 } where
  toSound := sound_skip good.toSound read
  strict := good.strict
  mem_iff a := by
    have removed : candidate ∈ remove := Array.mem_of_getElem? same
    rw [good.toSound.take_succ read, List.mem_append, List.mem_singleton]
    refine (good.mem_iff a).trans ⟨fun ⟨inFront, absent⟩ => ⟨.inl inFront, absent⟩, ?_⟩
    rintro ⟨inFront | rfl, absent⟩
    · exact ⟨inFront, absent⟩
    · exact absurd removed absent
  passed_lt removed passed a unread := by
    apply good.passed_lt removed passed
    rw [good.toSound.drop_eq read]
    exact List.mem_cons_of_mem candidate unread

theorem exact_pass (sorted : addresses.Pairwise (· ≤ ·)) (good : Exact addresses remove sweep)
    (read : sweep.buffer[sweep.next]? = some candidate) {removed : Bytes}
    (readRemoved : remove[sweep.passed]? = some removed) (less : removed < candidate) :
    Exact addresses remove { sweep with passed := sweep.passed + 1 } where
  toSound := ⟨good.kept_le, good.next_le, good.unread⟩
  strict := good.strict
  mem_iff := good.mem_iff
  passed_lt other passed a unread := by
    rw [List.take_add_one, Array.getElem?_toList, readRemoved, Option.toList_some,
      List.mem_append, List.mem_singleton] at passed
    rcases passed with before | rfl
    · exact good.passed_lt other before a unread
    · exact Std.lt_of_lt_of_le less (next_least sorted good.toSound read a unread)

/-- An address that `remove` neither passed nor reached is not in `remove`. -/
theorem candidate_absent (removeSorted : remove.toList.Pairwise (· ≤ ·))
    (good : Exact addresses remove sweep) (read : sweep.buffer[sweep.next]? = some candidate)
    (ahead : ∀ removed, remove[sweep.passed]? = some removed → candidate < removed) :
    candidate ∉ remove := by
  intro member
  rw [← Array.mem_toList_iff, ← List.take_append_drop sweep.passed remove.toList,
    List.mem_append] at member
  rcases member with passed | later
  · have unread : candidate ∈ addresses.drop sweep.next := by
      rw [good.toSound.drop_eq read]
      exact List.mem_cons_self
    exact Std.lt_irrefl (good.passed_lt candidate passed candidate unread)
  · have ordered := removeSorted.drop (i := sweep.passed)
    cases rest : remove.toList.drop sweep.passed with
    | nil => simp [rest] at later
    | cons removed others =>
        have head : remove[sweep.passed]? = some removed := by
          rw [← Array.getElem?_toList, ← List.head?_drop, rest, List.head?_cons]
        have less := ahead removed head
        rw [rest] at later ordered
        rcases List.mem_cons.1 later with rfl | among
        · exact Std.lt_irrefl less
        · exact Std.lt_irrefl (Std.lt_of_lt_of_le less (List.rel_of_pairwise_cons ordered among))

theorem exact_keep (sorted : addresses.Pairwise (· ≤ ·)) (good : Exact addresses remove sweep)
    (read : sweep.buffer[sweep.next]? = some candidate) (absent : candidate ∉ remove) :
    Exact addresses remove (sweep.keep candidate) where
  toSound := sound_keep good.toSound read
  strict := by
    rw [survivors_keep good.toSound read]
    split
    · exact good.strict
    · next ends =>
        have atMost : ∀ a ∈ sweep.survivors.toList, a ≤ candidate := fun a survives =>
          read_le sorted good.toSound read a ((good.mem_iff a).1 survives).1
        rw [List.pairwise_append]
        refine ⟨good.strict, List.pairwise_singleton _ _, fun a survives b isCandidate => ?_⟩
        rw [List.mem_singleton.1 isCandidate]
        exact lt_of_getLast?_ne good.strict atMost ends a survives
  mem_iff a := by
    have before := good.mem_iff a
    rw [survivors_keep good.toSound read, keep_next, good.toSound.take_succ read,
      List.mem_append, List.mem_singleton]
    split
    · next ends =>
        have survives : candidate ∈ sweep.survivors.toList := List.mem_of_getLast? ends
        refine before.trans ⟨fun ⟨inFront, lacks⟩ => ⟨.inl inFront, lacks⟩, ?_⟩
        rintro ⟨inFront | rfl, lacks⟩
        · exact ⟨inFront, lacks⟩
        · exact before.1 survives
    · rw [List.mem_append, List.mem_singleton, before]
      refine ⟨?_, fun ⟨front, lacks⟩ => front.imp_left fun inFront => ⟨inFront, lacks⟩⟩
      rintro (⟨inFront, lacks⟩ | rfl)
      · exact ⟨.inl inFront, lacks⟩
      · exact ⟨.inr rfl, absent⟩
  passed_lt removed passed a unread := by
    rw [keep_passed] at passed
    rw [keep_next] at unread
    apply good.passed_lt removed passed
    rw [good.toSound.drop_eq read]
    exact List.mem_cons_of_mem candidate unread

theorem exact_step (sorted : addresses.Pairwise (· ≤ ·))
    (removeSorted : remove.toList.Pairwise (· ≤ ·)) (good : Exact addresses remove sweep)
    (stepped : sweep.step remove = some sweep') : Exact addresses remove sweep' := by
  obtain ⟨candidate, read, ⟨same, rfl⟩ | ⟨removed, readRemoved, less, rfl⟩ | ⟨ahead, rfl⟩⟩ :=
    step_cases stepped
  · exact exact_skip good read same
  · exact exact_pass sorted good read readRemoved less
  · exact exact_keep sorted good read (candidate_absent removeSorted good read ahead)

end Exact

theorem exact_finish {buffer remove : Array Bytes} (sorted : buffer.toList.Pairwise (· ≤ ·))
    (removeSorted : remove.toList.Pairwise (· ≤ ·)) :
    ((start buffer).finish remove).survivors.toList.Pairwise (· < ·) ∧
      ∀ a, a ∈ ((start buffer).finish remove).survivors.toList ↔ a ∈ buffer ∧ a ∉ remove := by
  obtain ⟨good, stopped⟩ := finish_rule (Exact buffer.toList remove)
    (fun _ _ good stepped => exact_step sorted removeSorted good stepped)
    (start buffer) (exact_start buffer remove)
  have allRead : buffer.toList.drop ((start buffer).finish remove).next = [] := by
    rw [← good.unread, List.drop_eq_nil_iff, Array.length_toList]
    exact step_eq_none stopped
  refine ⟨good.strict, fun a => ?_⟩
  rw [good.mem_iff, List.take_of_length_le (List.drop_eq_nil_iff.1 allRead), Array.mem_toList_iff]

end Sweep

namespace AddressSet

section Sorted

variable {set remove : AddressSet} (sorted : set.isSorted = true)
  (removeSorted : remove.isSorted = true)

include sorted removeSorted

theorem sweep_strict : (set.sweep remove).toList.Pairwise (· < ·) :=
  (Sweep.exact_finish ((isSorted_iff set).1 sorted) ((isSorted_iff remove).1 removeSorted)).1

theorem mem_sweep {address : Bytes} :
    address ∈ (set.sweep remove).toList ↔ address ∈ set.toList ∧ address ∉ remove.toList := by
  have good := Sweep.exact_finish ((isSorted_iff set).1 sorted) ((isSorted_iff remove).1 removeSorted)
  simpa [toList, sweep] using good.2 address

/-- Neither operand is found unsorted. -/
theorem subtract?_sorted : set.subtract? remove = .ok (set.sweep remove) := by
  rw [subtract?, if_pos sorted, if_pos removeSorted]

end Sorted

end AddressSet

end ListExpansion
