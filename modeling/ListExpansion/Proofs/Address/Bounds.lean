/-
# ListExpansion.Proofs.Address.Bounds -- a sweep within its buffers

`Sweep.step` takes an address behind the end of the buffer for the end of the sweep, and a
swap with such an address changes nothing, so by itself it does not show whether the loop
stays in bounds.  `Sweep.turn` is an iteration in which every access is checked and one out
of bounds is an error (`OutOfBounds`); `iterate` repeats it a limited number of times.

The operands may be any sets, sorted or not.  What every step keeps is `Confined`: the
positions are in bounds, the addresses from `next` on are the original ones, and the buffer
is a rearrangement of the original.  Checked or not, a confined sweep takes the same step
(`turn_eq`).  Each step moves one of two positions, neither past the end of its buffer
(`advance_of_step`), so there are no more of them than addresses (`iterate_eq`).
-/
import ListExpansion.Proofs.Address.Sweep

namespace ListExpansion

set_option autoImplicit false

namespace Sweep

/-! ## The loop with its accesses checked -/

/-- An access at `index` of a buffer that has only `size` addresses. -/
structure OutOfBounds where
  index : Nat
  size : Nat
  deriving DecidableEq, Repr

/-- Whether `index` is one of the buffer. -/
def check (buffer : Array Bytes) (index : Nat) : Except OutOfBounds Unit :=
  if index < buffer.size then .ok () else .error ⟨index, buffer.size⟩

def readAt (buffer : Array Bytes) (index : Nat) : Except OutOfBounds Bytes :=
  match buffer[index]? with
  | some address => .ok address
  | none => .error ⟨index, buffer.size⟩

def exchange (buffer : Array Bytes) (i j : Nat) : Except OutOfBounds (Array Bytes) := do
  check buffer i
  check buffer j
  return buffer.swapIfInBounds i j

/-- Whether the next address repeats the last survivor; without a survivor none is read. -/
def repeatsLast (sweep : Sweep) : Except OutOfBounds Bool :=
  if sweep.kept = 0 then .ok false
  else do
    let last ← readAt sweep.buffer (sweep.kept - 1)
    let candidate ← readAt sweep.buffer sweep.next
    return last == candidate

/-- The next address survives unless it repeats the last survivor. -/
def retain (sweep : Sweep) : Except OutOfBounds Sweep := do
  if ← sweep.repeatsLast then
    return { sweep with next := sweep.next + 1 }
  else
    let buffer ← exchange sweep.buffer sweep.kept sweep.next
    return { sweep with buffer := buffer, kept := sweep.kept + 1, next := sweep.next + 1 }

/-- One iteration of the loop, or `none` where it ends. -/
def turn (remove : Array Bytes) (sweep : Sweep) : Except OutOfBounds (Option Sweep) := do
  if sweep.next < sweep.buffer.size then
    match remove[sweep.passed]? with
    | none => return some (← sweep.retain)
    | some removed =>
        match Bytes.compare (← readAt sweep.buffer sweep.next) removed with
        | .eq => return some { sweep with next := sweep.next + 1 }
        | .gt => return some { sweep with passed := sweep.passed + 1 }
        | .lt => return some (← sweep.retain)
  else
    return none

/-- The sweep at the end of the loop, or `none` if it does not end within `limit`
iterations. -/
def iterate (remove : Array Bytes) : (limit : Nat) → Sweep → Except OutOfBounds (Option Sweep)
  | 0, sweep => do
      match ← sweep.turn remove with
      | none => return some sweep
      | some _ => return none
  | limit + 1, sweep => do
      match ← sweep.turn remove with
      | none => return some sweep
      | some sweep' => iterate remove limit sweep'

/-! ## No check fails -/

section Checks

variable {addresses : List Bytes} {remove : Array Bytes} {sweep sweep' : Sweep} {candidate : Bytes}

theorem readAt_of_lt {buffer : Array Bytes} {index : Nat} (inBounds : index < buffer.size) :
    readAt buffer index = .ok buffer[index] := by
  rw [readAt, Array.getElem?_eq_getElem inBounds]

theorem exchange_of_lt {buffer : Array Bytes} {i j : Nat} (first : i < buffer.size)
    (second : j < buffer.size) : exchange buffer i j = .ok (buffer.swapIfInBounds i j) := by
  rw [exchange, check, if_pos first, check, if_pos second]
  rfl

theorem repeatsLast_eq (sound : Sound addresses sweep)
    (read : sweep.buffer[sweep.next]? = some candidate) :
    sweep.repeatsLast =
      .ok (decide (sweep.kept ≠ 0 ∧ sweep.buffer[sweep.kept - 1]? = some candidate)) := by
  obtain ⟨inBounds, rfl⟩ := Array.getElem?_eq_some_iff.1 read
  have kept_le := sound.kept_le
  unfold repeatsLast
  split
  · next none_ => simp [none_]
  · next some_ =>
      have lastInBounds : sweep.kept - 1 < sweep.buffer.size := by omega
      rw [readAt_of_lt lastInBounds, readAt_of_lt inBounds, Array.getElem?_eq_getElem lastInBounds]
      show Except.ok (sweep.buffer[sweep.kept - 1] == sweep.buffer[sweep.next]) = _
      simp only [some_, ne_eq, not_false_eq_true, true_and, Option.some.injEq, beq_eq_decide]

theorem retain_eq (sound : Sound addresses sweep)
    (read : sweep.buffer[sweep.next]? = some candidate) :
    sweep.retain = .ok (sweep.keep candidate) := by
  have inBounds := next_lt_size read
  have keptInBounds : sweep.kept < sweep.buffer.size := Nat.lt_of_le_of_lt sound.kept_le inBounds
  rw [retain, repeatsLast_eq sound read, exchange_of_lt keptInBounds inBounds, keep]
  by_cases repeats : sweep.kept ≠ 0 ∧ sweep.buffer[sweep.kept - 1]? = some candidate
  · rw [decide_eq_true repeats, if_pos repeats]
    rfl
  · rw [decide_eq_false repeats, if_neg repeats]
    rfl

/-- With its accesses checked, an iteration is the step. -/
theorem turn_eq (remove : Array Bytes) (sound : Sound addresses sweep) :
    sweep.turn remove = .ok (sweep.step remove) := by
  unfold turn step
  by_cases ended : sweep.buffer.size ≤ sweep.next
  · rw [if_neg (Nat.not_lt.2 ended), Array.getElem?_eq_none ended]
    rfl
  · have inBounds : sweep.next < sweep.buffer.size := Nat.not_le.1 ended
    have read := Array.getElem?_eq_getElem inBounds
    rw [if_pos inBounds, read, retain_eq sound read, readAt_of_lt inBounds]
    cases remove[sweep.passed]? with
    | none => rfl
    | some removed =>
        simp only [bind, Except.bind]
        cases Bytes.compare sweep.buffer[sweep.next] removed <;> rfl

/-- As many iterations as there are addresses left in both buffers bring the sweep to its
end. -/
theorem iterate_eq (limit : Nat) (sound : Sound addresses sweep)
    (enough : sweep.remaining remove ≤ limit) :
    sweep.iterate remove limit = .ok (some (sweep.finish remove)) := by
  induction limit generalizing sweep with
  | zero =>
      rw [iterate, turn_eq remove sound, finish]
      cases stepped : sweep.step remove with
      | none => rfl
      | some sweep' =>
          have less := remaining_step stepped
          omega
  | succ limit ih =>
      rw [iterate, turn_eq remove sound, finish]
      cases stepped : sweep.step remove with
      | none => rfl
      | some sweep' =>
          have less := remaining_step stepped
          exact ih (sound_step sound stepped) (by omega)

end Checks

/-! ## What every step keeps -/

theorem swap_perm (buffer : Array Bytes) (i j : Nat) :
    (buffer.swapIfInBounds i j).toList.Perm buffer.toList := by
  rw [Array.swapIfInBounds_def]
  split
  · split
    · exact (Array.swap_perm _ _).toList
    · exact .refl _
  · exact .refl _

theorem keep_perm (sweep : Sweep) (candidate : Bytes) :
    (sweep.keep candidate).buffer.toList.Perm sweep.buffer.toList := by
  unfold keep
  split
  · exact .refl _
  · exact swap_perm sweep.buffer sweep.kept sweep.next

/-- The sweep is within both buffers, and has lost or repeated none of `addresses`. -/
structure Confined (addresses : List Bytes) (remove : Array Bytes) (sweep : Sweep) : Prop extends
    Sound addresses sweep where
  passed_le : sweep.passed ≤ remove.size
  perm : sweep.buffer.toList.Perm addresses

/-- One of the positions is moved on, the other stays. -/
def Advance (sweep sweep' : Sweep) : Prop :=
  (sweep'.next = sweep.next + 1 ∧ sweep'.passed = sweep.passed) ∨
    (sweep'.next = sweep.next ∧ sweep'.passed = sweep.passed + 1)

section Confined

variable {addresses : List Bytes} {remove : Array Bytes} {sweep sweep' : Sweep}

theorem Confined.size_eq (confined : Confined addresses remove sweep) :
    sweep.buffer.size = addresses.length := by
  rw [← Array.length_toList, confined.perm.length_eq]

theorem confined_start (buffer remove : Array Bytes) :
    Confined buffer.toList remove (start buffer) :=
  ⟨sound_start buffer, Nat.zero_le _, .refl _⟩

theorem confined_step (confined : Confined addresses remove sweep)
    (stepped : sweep.step remove = some sweep') : Confined addresses remove sweep' := by
  have sound := sound_step confined.toSound stepped
  obtain ⟨candidate, read, ⟨_, rfl⟩ | ⟨removed, readRemoved, _, rfl⟩ | ⟨_, rfl⟩⟩ :=
    step_cases stepped
  · exact ⟨sound, confined.passed_le, confined.perm⟩
  · exact ⟨sound, (Array.getElem?_eq_some_iff.1 readRemoved).1, confined.perm⟩
  · refine ⟨sound, ?_, (keep_perm sweep candidate).trans confined.perm⟩
    rw [keep_passed]
    exact confined.passed_le

theorem Confined.reaches {later : Sweep} (confined : Confined addresses remove sweep)
    (reached : Reaches remove sweep later) : Confined addresses remove later := by
  induction reached with
  | refl => exact confined
  | tail _ stepped ih => exact confined_step ih stepped

theorem advance_of_step (stepped : sweep.step remove = some sweep') :
    sweep.next < sweep.buffer.size ∧ sweep.Advance sweep' := by
  obtain ⟨candidate, read, ⟨_, rfl⟩ | ⟨_, _, _, rfl⟩ | ⟨_, rfl⟩⟩ := step_cases stepped
  · exact ⟨next_lt_size read, .inl ⟨rfl, rfl⟩⟩
  · exact ⟨next_lt_size read, .inr ⟨rfl, rfl⟩⟩
  · exact ⟨next_lt_size read, .inl ⟨keep_next sweep candidate, keep_passed sweep candidate⟩⟩

theorem reaches_finish (remove : Array Bytes) (sweep : Sweep) :
    Reaches remove sweep (sweep.finish remove) :=
  (finish_rule (Reaches remove sweep) (fun _ _ reached stepped => reached.tail stepped)
    sweep .refl).1

theorem confined_finish (buffer remove : Array Bytes) :
    Confined buffer.toList remove ((start buffer).finish remove) :=
  (confined_start buffer remove).reaches (reaches_finish remove (start buffer))

end Confined

end Sweep

namespace AddressSet

/-- **The loop of a subtraction is safe on any operands.**  With every access checked it
ends, within as many iterations as the two sets have addresses, and leaves what the sweep
leaves.  At each moment until then the positions are in bounds, what was not read is as it
was, and the buffer is a rearrangement of the set (`Sweep.Confined`); each iteration moves
on in one of the two sets.  So at the end the buffer has as many addresses as survive, and
none of the set's was overwritten. -/
theorem sweep_in_bounds (set remove : AddressSet) :
    let start := Sweep.start set.addresses
    let last := start.finish remove.addresses
    start.iterate remove.addresses (set.size + remove.size) = .ok (some last) ∧
    set.sweep remove = ⟨last.buffer.take last.kept, set.capacity⟩ ∧
    last.kept ≤ last.buffer.size ∧
    last.buffer.toList.Perm set.toList ∧
    ∀ sweep, Sweep.Reaches remove.addresses start sweep →
      Sweep.Confined set.toList remove.addresses sweep ∧
      sweep.turn remove.addresses = .ok (sweep.step remove.addresses) ∧
      ∀ sweep', sweep.step remove.addresses = some sweep' →
        sweep.kept ≤ sweep.next ∧ sweep.next < sweep.buffer.size ∧ sweep.Advance sweep' := by
  intro start last
  have confined : Sweep.Confined set.toList remove.addresses start :=
    Sweep.confined_start set.addresses remove.addresses
  have atEnd : Sweep.Confined set.toList remove.addresses last :=
    Sweep.confined_finish set.addresses remove.addresses
  refine ⟨Sweep.iterate_eq _ confined.toSound (Nat.le_refl _), rfl,
    Nat.le_trans atEnd.kept_le atEnd.next_le, atEnd.perm, fun sweep reached => ?_⟩
  have good := confined.reaches reached
  refine ⟨good, Sweep.turn_eq _ good.toSound, fun sweep' stepped => ⟨good.kept_le, ?_⟩⟩
  exact Sweep.advance_of_step stepped

end AddressSet

end ListExpansion
