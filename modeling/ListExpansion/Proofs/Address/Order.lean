/-
# ListExpansion.Proofs.Address.Order -- addresses in ascending order

`Bytes.compare` decides the lexicographic order of lists of unsigned octets, the
one in which a proper initial part comes before what extends it: `compare_lt_iff`,
`compare_gt_iff` and `compare_eq_iff` are its three answers, `precedes_iff` the
order that sorting goes by.

So a set is sorted when each address is at most every later one (`isSorted_iff`),
and `sort` makes it so without gaining or losing an address.
-/
import ListExpansion.Address.Set
import Mathlib.Data.List.Sort

namespace ListExpansion

set_option autoImplicit false

namespace Bytes

theorem compare_lt_iff (a b : Bytes) : compare a b = .lt ↔ a < b := by
  induction a generalizing b with
  | nil => cases b <;> simp [compare]
  | cons x a ih =>
      cases b with
      | nil => simp [compare]
      | cons y b =>
          rw [compare, List.cons_lt_cons_iff]
          split
          · simp [*]
          · split
            · next notLess greater => simp [notLess, (Std.ne_of_lt greater).symm]
            · next notLess notGreater =>
                have same : x = y := Std.le_antisymm (Std.not_lt.1 notGreater) (Std.not_lt.1 notLess)
                simp [same, ih, Std.lt_irrefl]

theorem compare_swap (a b : Bytes) : (compare a b).swap = compare b a := by
  induction a generalizing b with
  | nil => cases b <;> simp [compare]
  | cons x a ih =>
      cases b with
      | nil => simp [compare]
      | cons y b =>
          simp only [compare]
          split
          · next less => simp [Std.not_lt.2 (Std.le_of_lt less)]
          · split
            · rfl
            · exact ih b

theorem compare_gt_iff (a b : Bytes) : compare a b = .gt ↔ b < a := by
  rw [← compare_lt_iff, ← compare_swap a b]
  cases compare a b <;> simp

/-- Only equal octet strings compare as equal. -/
theorem compare_eq_iff (a b : Bytes) : compare a b = .eq ↔ a = b := by
  have less := compare_lt_iff a b
  have greater := compare_gt_iff a b
  rcases Std.lt_trichotomy a b with h | rfl | h
  · simp [less.2 h, Std.ne_of_lt h]
  · cases same : compare a a with
    | eq => simp
    | lt => exact absurd (less.1 same) Std.lt_irrefl
    | gt => exact absurd (greater.1 same) Std.lt_irrefl
  · simp [greater.2 h, (Std.ne_of_lt h).symm]

theorem precedes_iff (a b : Bytes) : precedes a b = true ↔ a ≤ b := by
  rw [precedes, bne_iff_ne, Ne, compare_gt_iff, Std.not_lt]

/-- Strictly ascending lists are told apart by their members. -/
theorem eq_of_strict {one other : List Bytes} (strict : one.Pairwise (· < ·))
    (strictToo : other.Pairwise (· < ·)) (same : ∀ a, a ∈ one ↔ a ∈ other) : one = other := by
  have irrefl : Std.Irrefl (α := Bytes) (· < ·) := ⟨fun _ => Std.lt_irrefl⟩
  have antisymm : Std.Antisymm (α := Bytes) (· < ·) :=
    ⟨fun _ _ less greater => absurd (Std.lt_trans less greater) Std.lt_irrefl⟩
  exact strict.eq_of_mem_iff strictToo same

end Bytes

namespace AddressSet

theorem ascending_iff (addresses : List Bytes) :
    ascending addresses = true ↔ addresses.Pairwise (· ≤ ·) := by
  induction addresses with
  | nil => simp [ascending]
  | cons a rest ih =>
      cases rest with
      | nil => simp [ascending]
      | cons b rest =>
          rw [ascending, Bool.and_eq_true, ih, Bytes.precedes_iff, List.pairwise_cons (a := a)]
          refine ⟨fun ⟨ab, sorted⟩ => ⟨fun c member => ?_, sorted⟩, fun ⟨least, sorted⟩ =>
            ⟨least b List.mem_cons_self, sorted⟩⟩
          rcases List.mem_cons.1 member with rfl | later
          · exact ab
          · exact Std.le_trans ab (List.rel_of_pairwise_cons sorted later)

theorem isSorted_iff (set : AddressSet) :
    set.isSorted = true ↔ set.toList.Pairwise (· ≤ ·) :=
  ascending_iff set.toList

theorem isEmpty_iff (set : AddressSet) : set.isEmpty = true ↔ set.toList = [] := by
  simp [isEmpty, size, toList]

/-- Sorting is a rearrangement. -/
theorem sort_perm (set : AddressSet) : set.sort.toList.Perm set.toList :=
  List.mergeSort_perm set.toList Bytes.precedes

@[simp] theorem mem_sort {set : AddressSet} {address : Bytes} :
    address ∈ set.sort.toList ↔ address ∈ set.toList :=
  set.sort_perm.mem_iff

theorem sort_isSorted (set : AddressSet) : set.sort.isSorted = true := by
  rw [isSorted_iff]
  have sorted : (set.toList.mergeSort Bytes.precedes).Pairwise fun a b => Bytes.precedes a b := by
    apply List.pairwise_mergeSort
    · intro a b c ab bc
      rw [Bytes.precedes_iff] at ab bc ⊢
      exact Std.le_trans ab bc
    · intro a b
      rw [Bool.or_eq_true, Bytes.precedes_iff, Bytes.precedes_iff]
      exact Std.le_total
  exact sorted.imp fun {a b} => (Bytes.precedes_iff a b).1

end AddressSet

end ListExpansion
