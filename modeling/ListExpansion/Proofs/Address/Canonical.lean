/-
# ListExpansion.Proofs.Address.Canonical -- the one order that a set can be sorted into

`Bytes.NotBehind` says in octets which of two addresses comes first: the one that begins
the other, or the one with the lesser octet where they first differ.  The order of lists
is that one (`le_iff_notBehind`).

Two addresses that are not behind each other are the same, so a set has one ascending
arrangement and no more (`eq_sort_of_perm`), whatever way of sorting comes to it: equal
addresses cannot be told apart, and it does not matter whether they changed places.  The
sorted set is then a canonical form of the addresses with their multiplicities
(`sort_same_iff`), and the sorted sets are those that sorting leaves alone
(`isSorted_iff_sort_eq`).
-/
import ListExpansion.Proofs.Address.Order

namespace ListExpansion

set_option autoImplicit false

namespace Bytes

/-- `a` comes before `b`, or is `b`. -/
inductive NotBehind : (a b : Bytes) → Prop where
  | begins (a rest : Bytes) : NotBehind a (a ++ rest)
  | differs (common : Bytes) {x y : UInt8} (less : x.toNat < y.toNat) (a b : Bytes) :
      NotBehind (common ++ x :: a) (common ++ y :: b)

theorem NotBehind.cons {a b : Bytes} (x : UInt8) (ordered : NotBehind a b) :
    NotBehind (x :: a) (x :: b) := by
  cases ordered with
  | begins a rest => exact .begins (x :: a) rest
  | differs common less a b => exact .differs (x :: common) less a b

theorem notBehind_of_le {a b : Bytes} (ordered : a ≤ b) : NotBehind a b := by
  induction a generalizing b with
  | nil => exact .begins [] b
  | cons x a ih =>
      cases b with
      | nil => exact absurd ordered (List.not_le.2 (List.nil_lt_cons x a))
      | cons y b =>
          rcases List.cons_le_cons_iff.1 ordered with less | ⟨rfl, rest⟩
          · exact .differs [] (UInt8.lt_iff_toNat_lt.1 less) a b
          · exact (ih rest).cons x

theorem NotBehind.le {a b : Bytes} (ordered : NotBehind a b) : a ≤ b := by
  cases ordered with
  | begins a rest =>
      induction a with
      | nil => exact List.nil_le rest
      | cons x a ih => exact List.cons_le_cons_iff.2 (.inr ⟨rfl, ih⟩)
  | differs common less a b =>
      induction common with
      | nil => exact List.cons_le_cons_iff.2 (.inl (UInt8.lt_iff_toNat_lt.2 less))
      | cons x common ih => exact List.cons_le_cons_iff.2 (.inr ⟨rfl, ih⟩)

theorem le_iff_notBehind {a b : Bytes} : a ≤ b ↔ NotBehind a b :=
  ⟨notBehind_of_le, NotBehind.le⟩

theorem pairwise_notBehind {addresses : List Bytes} :
    addresses.Pairwise NotBehind ↔ addresses.Pairwise (· ≤ ·) :=
  List.Pairwise.iff fun _ _ => le_iff_notBehind.symm

/-- Rearranging an ascending list without disturbing its order leaves it as it is. -/
theorem eq_of_ascending {one other : List Bytes} (perm : one.Perm other)
    (sorted : one.Pairwise (· ≤ ·)) (sortedToo : other.Pairwise (· ≤ ·)) : one = other :=
  perm.eq_of_pairwise (fun _ _ _ _ => Std.le_antisymm) sorted sortedToo

end Bytes

namespace AddressSet

theorem same_iff (a b : AddressSet) : a.same b = true ↔ a.toList = b.toList :=
  beq_iff_eq

theorem sort_pairwise (set : AddressSet) : set.sort.toList.Pairwise (· ≤ ·) :=
  (isSorted_iff set.sort).1 set.sort_isSorted

/-- Any way of sorting comes to the same list. -/
theorem eq_sort_of_perm {set : AddressSet} {arranged : List Bytes}
    (perm : arranged.Perm set.toList) (sorted : arranged.Pairwise (· ≤ ·)) :
    arranged = set.sort.toList :=
  Bytes.eq_of_ascending (perm.trans set.sort_perm.symm) sorted set.sort_pairwise

theorem sort_eq_of_isSorted {set : AddressSet} (sorted : set.isSorted = true) : set.sort = set := by
  have still : set.toList = set.sort.toList := eq_sort_of_perm (.refl _) ((isSorted_iff set).1 sorted)
  have addresses : set.sort.addresses = set.addresses := Array.toList_inj.1 still.symm
  calc set.sort = ⟨set.sort.addresses, set.capacity⟩ := rfl
    _ = set := by rw [addresses]

theorem isSorted_iff_sort_eq (set : AddressSet) : set.isSorted = true ↔ set.sort = set := by
  refine ⟨sort_eq_of_isSorted, fun still => ?_⟩
  rw [← still]
  exact set.sort_isSorted

/-- Sorted sets are the same when the sets held the same addresses equally often. -/
theorem sort_same_iff (set other : AddressSet) :
    set.sort.same other.sort = true ↔ set.toList.Perm other.toList := by
  rw [same_iff]
  constructor
  · intro same
    have through : set.sort.toList.Perm other.toList := same ▸ other.sort_perm
    exact set.sort_perm.symm.trans through
  · intro perm
    exact eq_sort_of_perm (set.sort_perm.trans perm) set.sort_pairwise

/-- **Sorting gives a canonical form.**  It leaves the addresses, each as often as before,
in the one ascending arrangement that they have; so two sets are the same once sorted just
when one is a rearrangement of the other, and a set is sorted just when sorting changes
nothing. -/
theorem sort_canonical (set other : AddressSet) :
    set.sort.toList.Perm set.toList ∧
    set.sort.toList.Pairwise Bytes.NotBehind ∧
    (∀ arranged : List Bytes, arranged.Perm set.toList → arranged.Pairwise Bytes.NotBehind →
      arranged = set.sort.toList) ∧
    (set.sort.same other.sort = true ↔ set.toList.Perm other.toList) ∧
    (set.isSorted = true ↔ set.sort = set) ∧
    set.sort.sort = set.sort := by
  refine ⟨set.sort_perm, ?_, ?_, set.sort_same_iff other, set.isSorted_iff_sort_eq, ?_⟩
  · exact Bytes.pairwise_notBehind.2 set.sort_pairwise
  · intro arranged perm sorted
    exact eq_sort_of_perm perm (Bytes.pairwise_notBehind.1 sorted)
  · exact sort_eq_of_isSorted set.sort_isSorted

end AddressSet

end ListExpansion
