/-
# ListExpansion.Address.Set -- growing, sorting and subtracting addresses

An `AddressSet` is a sequence of octet strings with a capacity.  It may hold
repetitions until a subtraction removes them.

Two operations can fail, and say so:

* `push?` needs memory twice, for the copy and, when the set is full, for growth.
  Which reservations are granted is a parameter, so a failure can come at either,
  and leaves the set as it was.
* `subtract?` refuses unsorted operands.

The subtraction works in place (`Sweep`): one position reads the set, one the
subtrahend, and what survives is swapped to the front.
-/
import ListExpansion.Bytes
import ListExpansion.Text.Quoted

namespace ListExpansion

set_option autoImplicit false

/-- Why memory could not be had. -/
inductive Exhaustion where
  | capacityOverflow
  | allocatorRefused
  deriving DecidableEq, Repr

def Exhaustion.message : Exhaustion → String
  | .capacityOverflow =>
      "memory allocation failed because the computed capacity exceeded the collection's maximum"
  | .allocatorRefused => "memory allocation failed because the memory allocator returned an error"

structure AddressSet where
  addresses : Array Bytes
  capacity : Nat
  deriving DecidableEq

/-- A request for memory by `push?`. -/
inductive Reservation where
  | copy (octets : Nat)
  | growth (slots : Nat)

/-- Which operand of a subtraction is not sorted; the set itself is looked at first. -/
inductive Unsorted where
  | set
  | subtrahend
  deriving DecidableEq, Repr

def Unsorted.message : Unsorted → String
  | .set => "subtract requires a sorted set"
  | .subtrahend => "subtract requires a sorted subtrahend"

/-- A subtraction under way in `buffer`: the first `kept` addresses survive, those
from `next` on are still to be looked at, and `passed` counts the addresses of the
subtrahend that are behind. -/
structure Sweep where
  buffer : Array Bytes
  kept : Nat
  next : Nat
  passed : Nat

namespace Sweep

def start (buffer : Array Bytes) : Sweep :=
  ⟨buffer, 0, 0, 0⟩

/-- The address at `next` survives unless it repeats the last survivor. -/
def keep (sweep : Sweep) (candidate : Bytes) : Sweep :=
  if sweep.kept ≠ 0 ∧ sweep.buffer[sweep.kept - 1]? = some candidate then
    { sweep with next := sweep.next + 1 }
  else
    { sweep with
      buffer := sweep.buffer.swapIfInBounds sweep.kept sweep.next
      kept := sweep.kept + 1
      next := sweep.next + 1 }

/-- One step, or `none` at the end.  A match moves on in the set only: the set may
repeat the address, the subtrahend moves once the set has passed it. -/
def step (remove : Array Bytes) (sweep : Sweep) : Option Sweep :=
  match sweep.buffer[sweep.next]? with
  | none => none
  | some candidate =>
      match remove[sweep.passed]? with
      | none => some (sweep.keep candidate)
      | some removed =>
          match Bytes.compare candidate removed with
          | .eq => some { sweep with next := sweep.next + 1 }
          | .gt => some { sweep with passed := sweep.passed + 1 }
          | .lt => some (sweep.keep candidate)

/-- How much is left to do: every step moves one of the two positions. -/
def remaining (remove : Array Bytes) (sweep : Sweep) : Nat :=
  (sweep.buffer.size - sweep.next) + (remove.size - sweep.passed)

theorem keep_size (sweep : Sweep) (candidate : Bytes) :
    (sweep.keep candidate).buffer.size = sweep.buffer.size := by
  unfold keep; split <;> simp

theorem keep_next (sweep : Sweep) (candidate : Bytes) :
    (sweep.keep candidate).next = sweep.next + 1 := by
  unfold keep; split <;> rfl

theorem keep_passed (sweep : Sweep) (candidate : Bytes) :
    (sweep.keep candidate).passed = sweep.passed := by
  unfold keep; split <;> rfl

theorem remaining_step {remove : Array Bytes} {sweep sweep' : Sweep}
    (stepped : sweep.step remove = some sweep') :
    sweep'.remaining remove < sweep.remaining remove := by
  unfold step at stepped
  split at stepped
  · cases stepped
  · next candidate read =>
    have inSet : sweep.next < sweep.buffer.size := (Array.getElem?_eq_some_iff.1 read).1
    have kept : (sweep.keep candidate).remaining remove < sweep.remaining remove := by
      simp only [remaining, keep_size, keep_next, keep_passed]; omega
    split at stepped
    · cases stepped; exact kept
    · next removed readRemoved =>
      have inRemove : sweep.passed < remove.size := (Array.getElem?_eq_some_iff.1 readRemoved).1
      split at stepped
      · cases stepped; simp only [remaining]; omega
      · cases stepped; simp only [remaining]; omega
      · cases stepped; exact kept

/-- The sweep when no step is left. -/
def finish (remove : Array Bytes) (sweep : Sweep) : Sweep :=
  match _stepped : sweep.step remove with
  | none => sweep
  | some sweep' => finish remove sweep'
termination_by sweep.remaining remove
decreasing_by exact remaining_step _stepped

/-- The survivors. -/
def survivors (sweep : Sweep) : Array Bytes :=
  sweep.buffer.take sweep.kept

end Sweep

namespace AddressSet

/-- The empty set, which holds no memory. -/
def empty : AddressSet := ⟨#[], 0⟩

/-- The empty set with room for `capacity` addresses. -/
def withCapacity (capacity : Nat) : AddressSet := ⟨#[], capacity⟩

/-- The octets of memory that a set takes for each address it has room for. -/
def slotSize : Nat := 24

/-- The most addresses that memory can have room for: it is counted in 63 bits. -/
def maximalCapacity : Nat := (UInt64.size / 2 - 1) / slotSize

/-- Whether room for so many addresses can be asked for at all. -/
def isPossible (capacity : Nat) : Bool := capacity ≤ maximalCapacity

/-- A set of the given addresses, in order. -/
def ofList (addresses : List Bytes) : AddressSet :=
  ⟨addresses.toArray, addresses.length⟩

def toList (set : AddressSet) : List Bytes := set.addresses.toList

def size (set : AddressSet) : Nat := set.addresses.size

def isEmpty (set : AddressSet) : Bool := set.size == 0

def get? (set : AddressSet) (index : Nat) : Option Bytes := set.addresses[index]?

/-- What a full set asks for: as many slots again, and at least one. -/
def growth (set : AddressSet) : Nat := max set.capacity 1

/-- The address that was added last. -/
def last (set : AddressSet) : Bytes := (set.get? (set.size - 1)).getD []

/-- Makes room for `slots` more addresses, if there can be so much and `grants` allows it. -/
def reserve (grants : Reservation → Bool) (slots : Nat) : EStateM Exhaustion AddressSet Unit := do
  let current ← get
  unless isPossible (current.capacity + slots) do throw .capacityOverflow
  unless grants (.growth slots) do throw .allocatorRefused
  set { current with capacity := current.capacity + slots }

/-- Adds a copy of `address` at the end, if `grants` allows the memory it takes, and
returns the copy that is there. -/
def push? (grants : Reservation → Bool) (address : Bytes) :
    EStateM Exhaustion AddressSet Bytes := do
  unless grants (.copy address.length) do throw .allocatorRefused
  let current ← get
  if current.size = current.capacity then reserve grants current.growth
  modifyGet fun roomy =>
    let grown := { roomy with addresses := roomy.addresses.push address }
    (grown.last, grown)

/-- `push?` where memory never runs out. -/
def push (set : AddressSet) (address : Bytes) : AddressSet :=
  ⟨set.addresses.push address,
    if set.size = set.capacity then set.capacity + set.growth else set.capacity⟩

@[simp] theorem toList_push (set : AddressSet) (address : Bytes) :
    (set.push address).toList = set.toList ++ [address] := by
  simp [push, toList]

/-- Each address comes before the next, or equals it. -/
def ascending : List Bytes → Bool
  | a :: b :: rest => Bytes.precedes a b && ascending (b :: rest)
  | _ => true

def isSorted (set : AddressSet) : Bool := ascending set.toList

/-- The addresses in ascending order, each as often as before. -/
def sort (set : AddressSet) : AddressSet :=
  ⟨(set.toList.mergeSort Bytes.precedes).toArray, set.capacity⟩

/-- The sweep itself, whatever the order of the operands. -/
def sweep (set remove : AddressSet) : AddressSet :=
  ⟨((Sweep.start set.addresses).finish remove.addresses).survivors, set.capacity⟩

/-- The addresses of `set` that are not in `remove`, each once.  Both sets have to
be sorted. -/
def subtract? (set remove : AddressSet) : Except Unsorted AddressSet :=
  if set.isSorted then
    if remove.isSorted then .ok (set.sweep remove)
    else .error .subtrahend
  else .error .set

/-- Sets are the same when they hold the same addresses in the same order. -/
def same (a b : AddressSet) : Bool := a.toList == b.toList

/-- The addresses as a list of quoted texts. -/
def describe (set : AddressSet) : String :=
  Text.listing (set.toList.map fun address => Text.quote (Utf8.lossy address))

end AddressSet

end ListExpansion
