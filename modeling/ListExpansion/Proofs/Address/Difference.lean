/-
# ListExpansion.Proofs.Address.Difference -- subtraction against its plain definition

`difference` is what one would write down first: drop the addresses that the subtrahend
has, then all repetitions.  It reads the subtrahend again for each address, and takes a
list of its own.  On a sorted list it is strictly ascending (`difference_strict`).

The sweep comes to the same (`toList_sweep`) in one pass over both sets and in the memory
of the one.  `subtractInPlace` is the subtraction on the sets where they are kept, so that
it can be said what becomes of either, also when it is refused (`subtract_difference`).
-/
import ListExpansion.Proofs.Address.Sweep
import Mathlib.Data.List.Dedup

namespace ListExpansion

set_option autoImplicit false

/-- What `set` has and `remove` has not, each once. -/
def difference (set remove : List Bytes) : List Bytes :=
  (set.filter fun address => !remove.contains address).dedup

theorem mem_difference {set remove : List Bytes} {address : Bytes} :
    address ∈ difference set remove ↔ address ∈ set ∧ address ∉ remove := by
  simp [difference]

/-- Dropping addresses leaves the others in order, and no two that are left are equal. -/
theorem difference_strict {set : List Bytes} (sorted : set.Pairwise (· ≤ ·))
    (remove : List Bytes) : (difference set remove).Pairwise (· < ·) := by
  have part : (difference set remove).Sublist set :=
    (List.dedup_sublist _).trans List.filter_sublist
  have distinct : (difference set remove).Nodup := List.nodup_dedup _
  exact (sorted.sublist part).imp₂ (fun _ _ => Std.lt_of_le_of_ne) distinct

namespace AddressSet

/-- Both are strictly ascending and have the same members. -/
theorem toList_sweep {set remove : AddressSet} (sorted : set.isSorted = true)
    (removeSorted : remove.isSorted = true) :
    (set.sweep remove).toList = difference set.toList remove.toList := by
  apply Bytes.eq_of_strict (sweep_strict sorted removeSorted)
    (difference_strict ((isSorted_iff set).1 sorted) remove.toList)
  intro address
  rw [mem_sweep sorted removeSorted, mem_difference]

/-- The two sets of a subtraction, where they are kept. -/
structure Operands where
  set : AddressSet
  remove : AddressSet

/-- The subtraction on the sets themselves, or the message that it is refused with. -/
def subtractInPlace : EStateM String Operands Unit := do
  let operands ← get
  match operands.set.subtract? operands.remove with
  | .ok left => set { operands with set := left }
  | .error unsorted => throw unsorted.message

section Run

variable {set remove : AddressSet}

theorem subtractInPlace_ok (sorted : set.isSorted = true) (removeSorted : remove.isSorted = true) :
    subtractInPlace.run ⟨set, remove⟩ = .ok () ⟨set.sweep remove, remove⟩ := by
  simp [subtractInPlace, subtract?_sorted sorted removeSorted]

theorem subtractInPlace_error {unsorted : Unsorted} (refused : set.subtract? remove = .error unsorted) :
    subtractInPlace.run ⟨set, remove⟩ = .error unsorted.message ⟨set, remove⟩ := by
  simp [subtractInPlace, refused]

end Run

/-- **Subtracting is dropping what the subtrahend has, and all repetitions.**  The set is
left with the rest in strictly ascending order, in the same memory, and at no moment does
the sweep leave the set.  Operands that are not sorted stay as they are, and of the two the
set is looked at first. -/
theorem subtract_difference (set remove : AddressSet) :
    let outcome := subtractInPlace.run ⟨set, remove⟩
    let left := difference set.toList remove.toList
    (set.toList.Pairwise (· ≤ ·) → remove.toList.Pairwise (· ≤ ·) →
      outcome = .ok () ⟨⟨left.toArray, set.capacity⟩, remove⟩ ∧
      left.Pairwise (· < ·) ∧
      (∀ address, address ∈ left ↔ address ∈ set.toList ∧ address ∉ remove.toList) ∧
      ∀ sweep, Sweep.Reaches remove.addresses (.start set.addresses) sweep →
        sweep.kept ≤ sweep.next ∧ sweep.next ≤ sweep.buffer.size) ∧
    (¬ set.toList.Pairwise (· ≤ ·) →
      outcome = .error "subtract requires a sorted set" ⟨set, remove⟩) ∧
    (set.toList.Pairwise (· ≤ ·) → ¬ remove.toList.Pairwise (· ≤ ·) →
      outcome = .error "subtract requires a sorted subtrahend" ⟨set, remove⟩) := by
  intro outcome left
  simp only [← isSorted_iff]
  refine ⟨fun sorted removeSorted => ⟨?_, ?_, fun address => mem_difference, ?_⟩, ?_, ?_⟩
  · have swept : set.sweep remove = ⟨left.toArray, set.capacity⟩ := by
      show set.sweep remove = ⟨(difference set.toList remove.toList).toArray, set.capacity⟩
      rw [← toList_sweep sorted removeSorted]
      rfl
    exact (subtractInPlace_ok sorted removeSorted).trans (by rw [swept])
  · exact difference_strict ((isSorted_iff set).1 sorted) remove.toList
  · intro sweep reached
    have sound := (Sweep.sound_start set.addresses).reaches reached
    exact ⟨sound.kept_le, sound.next_le⟩
  · intro unsorted
    exact subtractInPlace_error (if_neg unsorted)
  · intro sorted unsorted
    have refused : set.subtract? remove = .error .subtrahend := by
      rw [subtract?, if_pos sorted, if_neg unsorted]
    exact subtractInPlace_error refused

end AddressSet

end ListExpansion
