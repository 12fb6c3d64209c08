/-
# ListExpansion.Proofs.Address.Capacity -- how the room in a set grows

`push?` does what `push` does where the memory that it needs is there (`Granted`,
`push?_granted`), and nothing where it is not (`push?_refused`).

A set grows only when it is full, and then to twice its room, an empty one to room for
one.  Sorting and subtracting leave the room as it is, so what a subtraction frees is used
again before the set grows once more, and the room depends on nothing but what the set had
in the beginning and the most that it has ever held: `Room` is that law, `fits_on` what an
operation keeps of it and `fits_after` what any sequence of operations does.
-/
import ListExpansion.Proofs.Address.Bounds
import ListExpansion.Proofs.Address.Difference
import Mathlib.Algebra.GroupWithZero.Nat
import Mathlib.Data.List.Induction
import Mathlib.Order.Bounds.Defs

namespace ListExpansion

set_option autoImplicit false

namespace AddressSet

/-! ## Adding one address -/

/-- There is the memory that adding `address` to `set` takes. -/
structure Granted (grants : Reservation → Bool) (set : AddressSet) (address : Bytes) : Prop where
  copy : grants (.copy address.length) = true
  possible : set.size = set.capacity → isPossible (set.capacity + set.growth) = true
  growth : set.size = set.capacity → grants (.growth set.growth) = true

section Push

variable {grants : Reservation → Bool} {set : AddressSet} {address : Bytes} {slots : Nat}

theorem reserve_granted (possible : isPossible (set.capacity + slots) = true)
    (granted : grants (.growth slots) = true) :
    (reserve grants slots).run set = .ok () { set with capacity := set.capacity + slots } := by
  simp [reserve, possible, granted]

theorem reserve_refused
    (refused : isPossible (set.capacity + slots) = false ∨ grants (.growth slots) = false) :
    ∃ cause, (reserve grants slots).run set = .error cause set := by
  cases possible : isPossible (set.capacity + slots) with
  | false => exact ⟨.capacityOverflow, by simp [reserve, possible]⟩
  | true =>
      have growth : grants (.growth slots) = false := by simpa [possible] using refused
      exact ⟨.allocatorRefused, by simp [reserve, possible, growth]⟩

theorem last_push (set : AddressSet) (address : Bytes) : (set.push address).last = address := by
  simp [last, get?, size, push]

theorem push?_granted (granted : Granted grants set address) :
    (push? grants address).run set = .ok address (set.push address) := by
  have stored := set.last_push address
  by_cases full : set.size = set.capacity
  · have reserved := reserve_granted (granted.possible full) (granted.growth full)
    rw [push, if_pos full] at stored ⊢
    simp [push?, granted.copy, full, reserved, stored]
  · rw [push, if_neg full] at stored ⊢
    simp [push?, granted.copy, full, stored]

theorem push?_refused (refused : ¬ Granted grants set address) :
    ∃ cause, (push? grants address).run set = .error cause set := by
  cases copy : grants (.copy address.length) with
  | false => exact ⟨.allocatorRefused, by simp [push?, copy]⟩
  | true =>
      have full : set.size = set.capacity := by
        by_contra room
        exact refused ⟨copy, fun full => absurd full room, fun full => absurd full room⟩
      have noGrowth : isPossible (set.capacity + set.growth) = false ∨
          grants (.growth set.growth) = false := by
        by_contra both
        simp only [not_or, Bool.not_eq_false] at both
        exact refused ⟨copy, fun _ => both.1, fun _ => both.2⟩
      obtain ⟨cause, failed⟩ := reserve_refused noGrowth
      exact ⟨cause, by simp [push?, copy, full, failed]⟩

end Push

/-! ## Any operations -/

/-- What is done to a set where it is kept. -/
inductive Operation where
  /-- `grants` says which memory there is at the time. -/
  | push (grants : Reservation → Bool) (address : Bytes)
  | sort
  | subtract (remove : AddressSet)

/-- The state that a computation comes to, by success or failure. -/
def reached {ε σ α : Type} : EStateM.Result ε σ α → σ
  | .ok _ state => state
  | .error _ state => state

/-- The set after an operation, also after one that failed or was refused. -/
def Operation.on (set : AddressSet) : Operation → AddressSet
  | .push grants address => reached ((push? grants address).run set)
  | .sort => set.sort
  | .subtract remove => (reached (subtractInPlace.run ⟨set, remove⟩)).set

/-- The set after `operations`, done in order. -/
def after (start : AddressSet) (operations : List Operation) : AddressSet :=
  operations.foldl Operation.on start

/-- The most addresses that the set has held, from the start to the end. -/
def peak (start : AddressSet) : List Operation → Nat
  | [] => start.size
  | operation :: rest => max start.size (peak (operation.on start) rest)

theorem after_concat (start : AddressSet) (operations : List Operation) (operation : Operation) :
    after start (operations ++ [operation]) = operation.on (after start operations) :=
  List.foldl_concat Operation.on start operation operations

theorem peak_concat (start : AddressSet) (operations : List Operation) (operation : Operation) :
    peak start (operations ++ [operation]) =
      max (peak start operations) (operation.on (after start operations)).size := by
  induction operations generalizing start with
  | nil => rfl
  | cons first operations ih =>
      rw [List.cons_append, peak, ih, peak, Nat.max_assoc]
      rfl

section Operation

variable (set : AddressSet)

theorem on_push (grants : Reservation → Bool) (address : Bytes) :
    Operation.on set (.push grants address) = set.push address ∨
      Operation.on set (.push grants address) = set := by
  by_cases granted : Granted grants set address
  · left
    rw [Operation.on, push?_granted granted, reached]
  · right
    obtain ⟨cause, failed⟩ := push?_refused granted
    rw [Operation.on, failed, reached]

theorem on_subtract (remove : AddressSet) :
    Operation.on set (.subtract remove) = set.sweep remove ∨
      Operation.on set (.subtract remove) = set := by
  cases outcome : set.subtract? remove with
  | ok left =>
      have swept : left = set.sweep remove := by grind [subtract?]
      left
      simp [Operation.on, subtractInPlace, outcome, reached, swept]
  | error unsorted =>
      right
      rw [Operation.on, subtractInPlace_error outcome, reached]

@[simp] theorem size_push (address : Bytes) : (set.push address).size = set.size + 1 := by
  simp [size, push]

@[simp] theorem size_sort : set.sort.size = set.size := by
  simp [size, sort, toList]

theorem size_sweep_le (remove : AddressSet) : (set.sweep remove).size ≤ set.size := by
  have size_eq := (Sweep.confined_finish set.addresses remove.addresses).size_eq
  rw [Array.length_toList] at size_eq
  simp only [size, sweep, Sweep.survivors, Array.take_eq_extract, Array.size_extract]
  omega

/-- Everything that an operation can do to the size and the room. -/
theorem on_cases (operation : Operation) :
    (∃ address, operation.on set = set.push address) ∨
      ((operation.on set).size ≤ set.size ∧ (operation.on set).capacity = set.capacity) := by
  cases operation with
  | push grants address =>
      rcases on_push set grants address with pushed | same
      · exact .inl ⟨address, pushed⟩
      · rw [same]
        exact .inr ⟨Nat.le_refl _, rfl⟩
  | sort => exact .inr ⟨Nat.le_of_eq set.size_sort, rfl⟩
  | subtract remove =>
      rcases on_subtract set remove with swept | same
      · rw [swept]
        exact .inr ⟨set.size_sweep_le remove, rfl⟩
      · rw [same]
        exact .inr ⟨Nat.le_refl _, rfl⟩

theorem capacity_subtract (remove : AddressSet) :
    (Operation.on set (.subtract remove)).capacity = set.capacity := by
  rcases on_subtract set remove with swept | same
  · rw [swept]
    rfl
  · rw [same]

theorem capacity_le_on (operation : Operation) : set.capacity ≤ (operation.on set).capacity := by
  rcases on_cases set operation with ⟨address, pushed⟩ | ⟨_, same⟩
  · rw [pushed]
    simp only [push]
    split <;> omega
  · exact Nat.le_of_eq same.symm

theorem capacity_le_after (later : List Operation) :
    set.capacity ≤ (after set later).capacity := by
  induction later using List.reverseRecOn with
  | nil => exact Nat.le_refl _
  | append_singleton later operation ih =>
      rw [after_concat]
      exact Nat.le_trans ih (capacity_le_on _ operation)

end Operation

/-! ## The law -/

/-- The room in a set that began with room for `n` addresses and has held `held` at most. -/
def Room (n held capacity : Nat) : Prop :=
  (held ≤ n → capacity = n) ∧
    (n < held → ∃ k, IsLeast {k | held ≤ max n 1 * 2 ^ k} k ∧ capacity = max n 1 * 2 ^ k)

section Room

variable {n held capacity : Nat}

theorem Room.held_le (room : Room n held capacity) : held ≤ capacity := by
  rcases Nat.lt_or_ge n held with grown | never
  · obtain ⟨k, least, rfl⟩ := room.2 grown
    exact least.1
  · rwa [room.1 never]

/-- What still has room is not moved. -/
theorem Room.mono (room : Room n held capacity) {higher : Nat} (more : held ≤ higher)
    (fits : higher ≤ capacity) : Room n higher capacity := by
  rcases Nat.lt_or_ge n held with grown | never
  · obtain ⟨k, least, rfl⟩ := room.2 grown
    refine ⟨fun small => absurd small (by omega), fun _ => ⟨k, ⟨fits, fun other enough => ?_⟩, rfl⟩⟩
    exact least.2 (Nat.le_trans more enough)
  · have same := room.1 never
    exact ⟨fun _ => same, fun large => absurd large (by omega)⟩

/-- Before one doubling more there is no slot beyond those of `k` doublings. -/
theorem isLeast_doublings {slots : Nat} (positive : 0 < slots) (k : Nat) :
    IsLeast {j | slots * 2 ^ k + 1 ≤ slots * 2 ^ j} (k + 1) := by
  refine ⟨?_, fun j enough => ?_⟩
  · have some_ : 0 < slots * 2 ^ k := Nat.mul_pos positive (Nat.two_pow_pos k)
    show slots * 2 ^ k + 1 ≤ slots * 2 ^ (k + 1)
    rw [Nat.pow_succ, ← Nat.mul_assoc]
    omega
  · have higher : 2 ^ k < 2 ^ j := Nat.lt_of_mul_lt_mul_left enough
    exact (Nat.pow_lt_pow_iff_right Nat.one_lt_two).1 higher

theorem Room.eq_doublings (room : Room n capacity capacity) (positive : 0 < capacity) :
    ∃ k, capacity = max n 1 * 2 ^ k := by
  rcases Nat.lt_or_ge n capacity with grown | never
  · obtain ⟨k, -, same⟩ := room.2 grown
    exact ⟨k, same⟩
  · have same := room.1 never
    exact ⟨0, by omega⟩

/-- One address more than there is room for doubles the room. -/
theorem Room.doubled (room : Room n capacity capacity) :
    Room n (capacity + 1) (capacity + max capacity 1) := by
  refine ⟨fun small => ?_, fun _ => ?_⟩
  · have same := room.1 (by omega)
    omega
  · rcases Nat.eq_zero_or_pos capacity with rfl | positive
    · obtain rfl : 0 = n := room.1 (Nat.zero_le n)
      exact ⟨0, ⟨Nat.le_refl 1, fun _ _ => Nat.zero_le _⟩, rfl⟩
    · obtain ⟨k, same⟩ := room.eq_doublings positive
      refine ⟨k + 1, ?_, ?_⟩
      · rw [same]
        exact isLeast_doublings (by omega) k
      · calc capacity + max capacity 1 = capacity * 2 := by omega
          _ = max n 1 * 2 ^ (k + 1) := by rw [same, Nat.mul_assoc, ← Nat.pow_succ]

end Room

/-- The set has held `held` addresses at most, and has the room that goes with it. -/
structure Fits (n held : Nat) (set : AddressSet) : Prop where
  size_le : set.size ≤ held
  room : Room n held set.capacity

section Fits

variable {n held : Nat} {set : AddressSet}

theorem Fits.size_le_capacity (fits : Fits n held set) : set.size ≤ set.capacity :=
  Nat.le_trans fits.size_le fits.room.held_le

theorem fits_start (n : Nat) : Fits n 0 (withCapacity n) :=
  ⟨Nat.le_refl 0, fun _ => rfl, fun large => absurd large (Nat.not_lt_zero n)⟩

theorem fits_push (fits : Fits n held set) (address : Bytes) :
    Fits n (max held (set.size + 1)) (set.push address) := by
  have size_le := fits.size_le
  have held_le := fits.room.held_le
  refine ⟨by rw [size_push]; omega, ?_⟩
  by_cases full : set.size = set.capacity
  · have allHeld : held = set.capacity := by omega
    have higher : max held (set.size + 1) = set.capacity + 1 := by omega
    rw [higher, push, if_pos full]
    exact Room.doubled (allHeld ▸ fits.room)
  · rw [push, if_neg full]
    exact fits.room.mono (by omega) (by omega)

theorem fits_on (fits : Fits n held set) (operation : Operation) :
    Fits n (max held (operation.on set).size) (operation.on set) := by
  rcases on_cases set operation with ⟨address, pushed⟩ | ⟨smaller, same⟩
  · rw [pushed, size_push]
    exact fits_push fits address
  · have unchanged : max held (operation.on set).size = held := by
      have size_le := fits.size_le
      omega
    rw [unchanged]
    exact ⟨Nat.le_trans smaller fits.size_le, same ▸ fits.room⟩

theorem fits_after (n : Nat) (operations : List Operation) :
    Fits n (peak (withCapacity n) operations) (after (withCapacity n) operations) := by
  induction operations using List.reverseRecOn with
  | nil => exact fits_start n
  | append_singleton operations operation ih =>
      rw [peak_concat, after_concat]
      exact fits_on ih operation

end Fits

/-- **The room in a set is known from where it began and the most that it has held.**  After
any operations on a set with room for `n` it is `n`, or the first of `n`, twice `n`, four
times `n` and so on (of `1`, `2`, `4` if `n` is nothing) that was enough.  There is never
less than is held, and never less than before; sorting and subtracting do not change it.  At
any time an address is added behind the others and read back where it is, or the memory for
it is not to be had and the set stays as it is. -/
theorem capacity_law (n : Nat) (operations : List Operation) :
    let set := after (withCapacity n) operations
    let held := peak (withCapacity n) operations
    withCapacity 0 = empty ∧
    set.size ≤ set.capacity ∧
    (held ≤ n → set.capacity = n) ∧
    (n < held → ∃ k, IsLeast {k | held ≤ max n 1 * 2 ^ k} k ∧ set.capacity = max n 1 * 2 ^ k) ∧
    (∀ later, set.capacity ≤ (after set later).capacity) ∧
    (Operation.on set .sort).capacity = set.capacity ∧
    (∀ remove, (Operation.on set (.subtract remove)).capacity = set.capacity) ∧
    ∀ grants address,
      let outcome := (push? grants address).run set
      (Granted grants set address → outcome = .ok address (set.push address) ∧
        (set.push address).toList = set.toList ++ [address] ∧
        (set.push address).get? set.size = some address) ∧
      (¬ Granted grants set address → ∃ cause, outcome = .error cause set) := by
  intro set held
  have fits : Fits n held set := fits_after n operations
  refine ⟨rfl, fits.size_le_capacity, fits.room.1, fits.room.2, capacity_le_after set, rfl,
    capacity_subtract set, fun grants address => ⟨fun granted => ?_, fun refused => ?_⟩⟩
  · refine ⟨push?_granted granted, set.toList_push address, ?_⟩
    simp [get?, size, push]
  · exact push?_refused refused

/-- What a subtraction has freed is used again before the set grows. -/
example :
    let add (octet : UInt8) : Operation := .push (fun _ => true) [octet]
    let set := after (withCapacity 2) [add 99, add 98, .sort, .subtract (ofList [[98]]), add 97]
    (set.toList, set.capacity, (after set [add 96]).capacity) = ([[99], [97]], 2, 4) := by
  cbv

end AddressSet

end ListExpansion
