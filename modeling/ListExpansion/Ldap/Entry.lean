/-
# ListExpansion.Ldap.Entry -- what a search finds

An entry comes as names with octet strings.  The client sorts its attributes into
textual ones, all of whose values are text, and binary ones; of a binary
attribute the values that are no text come first.  Which attributes come first
among their kind is nobody's promise, so nothing may depend on it.

`collect` gathers every value of every attribute into a set.  It may run out of memory on
the way, and then nothing of it is left.
-/
import ListExpansion.Directory.Basic
import ListExpansion.Text.Utf8

namespace ListExpansion.Ldap

set_option autoImplicit false

/-- An entry as the server sends it. -/
structure Entry where
  dn : String
  attributes : List (String × List Bytes)

/-- An entry as the client hands it over. -/
structure SortedEntry where
  dn : String
  textual : List (String × List String)
  binary : List (String × List Bytes)

/-- The members with `value` for `name`, in place of an earlier value. -/
def replaced {α : Type} (name : String) (value : α) (members : List (String × α)) :
    List (String × α) :=
  if members.any fun (other, _) => other == name then
    members.map fun (other, old) => if other == name then (other, value) else (other, old)
  else members ++ [(name, value)]

/-- The members with `values` behind those that `name` has already. -/
def extended {α : Type} (name : String) (values : List α) (members : List (String × List α)) :
    List (String × List α) :=
  replaced name (((members.lookup name).getD []) ++ values) members

/-- Takes in one attribute. -/
def SortedEntry.add (entry : SortedEntry) (name : String) (values : List Bytes) : SortedEntry :=
  let texts := values.filterMap Utf8.decode?
  let others := values.filter fun value => !Utf8.isText value
  if others.isEmpty then { entry with textual := replaced name texts entry.textual }
  else { entry with binary := extended name (others ++ texts.map Bytes.ofText) entry.binary }

def Entry.sorted (entry : Entry) : SortedEntry :=
  entry.attributes.foldl (fun sorted (name, values) => sorted.add name values) ⟨entry.dn, [], []⟩

/-- All values of an entry, textual ones first. -/
def SortedEntry.values (entry : SortedEntry) : List Bytes :=
  (entry.textual.flatMap fun (_, texts) => texts.map Bytes.ofText) ++
    entry.binary.flatMap fun (_, values) => values

/-- The event that a value leaves. -/
def foundEvent (dn : String) (value : Bytes) : Event :=
  .own .debug s!"Found address {Utf8.lossy value} in {dn}"

/-- How many addresses an entry is expected to hold. -/
def valuesPerEntry : Nat := 3

/-- Which memory there is as values are gathered: whether a reservation is granted, given how
many of them there are by then. -/
abbrev Memory := (gathered : Nat) → Reservation → Bool

/-- Memory that never runs out. -/
def Memory.ample : Memory := fun _ _ => true

/-- Adds values, each with the name of its entry, up to the first that there is no memory for.
Of each that was added it is told. -/
def gather (memory : Memory) : List (String × Bytes) → AddressSet →
    Except Exhaustion AddressSet × List Event
  | [], room => (.ok room, [])
  | (dn, value) :: rest, room =>
      match (AddressSet.push? (memory room.size) value).run room with
      | .error cause _ => (.error cause, [])
      | .ok stored room =>
          let (outcome, events) := gather memory rest room
          (outcome, foundEvent dn stored :: events)

/-- Every value of an entry, with the entry's name. -/
def SortedEntry.found (entry : SortedEntry) : List (String × Bytes) :=
  entry.values.map fun value => (entry.dn, value)

/-- Every value of every entry, entry by entry, if there is the memory for all of them.  The room
to begin with is taken for granted: nobody is told if there is none. -/
def collect (memory : Memory) (entries : List SortedEntry) :
    Except Exhaustion AddressSet × List Event :=
  gather memory (entries.flatMap SortedEntry.found)
    (AddressSet.withCapacity (entries.length * valuesPerEntry))

end ListExpansion.Ldap
