/-
# ListExpansion.Proofs.Ldap.Gathering -- what is gathered of an answer

Where there is the memory for every value when its turn comes (`Enough`), `collect` keeps all
of them, as often as they are there and in their places (`collect_enough`, `count_values`).
Where there is not, it fails, and has told of no more than it came to (`collect_short`).

`Answered` says what a search has to answer, given what came of its request, without looking at
how values are gathered; `searchReply` is such an answer (`answered_searchReply`).
-/
import ListExpansion.Ldap.Directory
import ListExpansion.Proofs.Address.Capacity

namespace ListExpansion.Ldap

set_option autoImplicit false

variable {memory : Memory} {room : AddressSet} {value : Bytes} {values : List Bytes}
  {entries : List SortedEntry}

/-! ## Enough memory -/

/-- There is the memory for each of `values` when its turn comes, behind what is in `room`. -/
def EnoughFor (memory : Memory) (room : AddressSet) (values : List Bytes) : Prop :=
  ∀ before value after, values = before ++ value :: after →
    let set := before.foldl AddressSet.push room
    AddressSet.Granted (memory set.size) set value

/-- There is the memory for every value of every entry. -/
def Enough (memory : Memory) (entries : List SortedEntry) : Prop :=
  EnoughFor memory (.withCapacity (entries.length * valuesPerEntry))
    (entries.flatMap SortedEntry.values)

theorem enoughFor_nil : EnoughFor memory room [] := by
  intro before value after parted
  exact absurd parted.symm
    (List.append_ne_nil_of_right_ne_nil before (List.cons_ne_nil value after))

theorem enoughFor_cons :
    EnoughFor memory room (value :: values) ↔
      AddressSet.Granted (memory room.size) room value ∧
        EnoughFor memory (room.push value) values := by
  constructor
  · intro enough
    refine ⟨enough [] value values rfl, fun before next after parted => ?_⟩
    exact enough (value :: before) next after (congrArg (value :: ·) parted)
  · rintro ⟨granted, enough⟩ before next after parted
    cases before with
    | nil =>
        cases parted
        exact granted
    | cons first before =>
        obtain ⟨rfl, rest⟩ := List.cons.inj parted
        exact enough before next after rest

theorem toList_foldl_push (values : List Bytes) (room : AddressSet) :
    (values.foldl AddressSet.push room).toList = room.toList ++ values := by
  induction values generalizing room with
  | nil => exact (List.append_nil _).symm
  | cons value values ih =>
      rw [List.foldl_cons, ih, AddressSet.toList_push, List.append_assoc]
      rfl

/-- Memory that never runs out is enough for as many values as can be counted in it. -/
theorem enough_ample
    (few : 2 * (entries.flatMap SortedEntry.values).length ≤ AddressSet.maximalCapacity) :
    Enough .ample entries := by
  intro before value after parted
  rw [parted, List.length_append, List.length_cons] at few
  intro set
  have held : set.size = before.length := by
    have listed : set.toList = before := toList_foldl_push before _
    rw [← listed]
    rfl
  refine ⟨rfl, fun full => ?_, fun _ => rfl⟩
  rw [AddressSet.isPossible, decide_eq_true_eq, AddressSet.growth]
  omega

/-! ## Gathering -/

/-- The events that values leave, entry by entry. -/
def foundEvents (entries : List SortedEntry) : List Event :=
  entries.flatMap fun entry => entry.values.map (foundEvent entry.dn)

theorem values_found (entries : List SortedEntry) :
    (entries.flatMap SortedEntry.found).map Prod.snd = entries.flatMap SortedEntry.values := by
  simp [List.map_flatMap, SortedEntry.found, Function.comp_def]

theorem events_found (entries : List SortedEntry) :
    (entries.flatMap SortedEntry.found).map (fun (dn, value) => foundEvent dn value) =
      foundEvents entries := by
  simp [List.map_flatMap, SortedEntry.found, foundEvents, Function.comp_def]

theorem gather_enough {found : List (String × Bytes)}
    (enough : EnoughFor memory room (found.map Prod.snd)) :
    gather memory found room =
      (.ok ((found.map Prod.snd).foldl AddressSet.push room),
        found.map fun (dn, value) => foundEvent dn value) := by
  induction found generalizing room with
  | nil => rfl
  | cons first rest ih =>
      obtain ⟨granted, more⟩ := enoughFor_cons.1 enough
      rw [gather, AddressSet.push?_granted granted]
      simp only [ih more]
      rfl

/-- What was told before the memory ran out is told in any case. -/
theorem gather_short {found : List (String × Bytes)}
    (short : ¬ EnoughFor memory room (found.map Prod.snd)) :
    ∃ cause events, gather memory found room = (.error cause, events) ∧
      events <+: found.map fun (dn, value) => foundEvent dn value := by
  induction found generalizing room with
  | nil => exact absurd enoughFor_nil short
  | cons first rest ih =>
      by_cases granted : AddressSet.Granted (memory room.size) room first.2
      · have later : ¬ EnoughFor memory (room.push first.2) (rest.map Prod.snd) :=
          fun more => short (enoughFor_cons.2 ⟨granted, more⟩)
        obtain ⟨cause, events, gathered, told⟩ := ih later
        refine ⟨cause, foundEvent first.1 first.2 :: events, ?_, ?_⟩
        · rw [gather, AddressSet.push?_granted granted]
          simp only [gathered]
        · exact List.prefix_cons_inj _ |>.2 told
      · obtain ⟨cause, failed⟩ := AddressSet.push?_refused granted
        exact ⟨cause, [], by rw [gather, failed], List.nil_prefix⟩

/-- All values are there, entry by entry, and each is told of. -/
theorem collect_enough (enough : Enough memory entries) :
    ∃ addresses : AddressSet, collect memory entries = (.ok addresses, foundEvents entries) ∧
      addresses.toList = entries.flatMap SortedEntry.values := by
  rw [Enough, ← values_found] at enough
  refine ⟨_, ?_, toList_foldl_push (entries.flatMap SortedEntry.values)
    (.withCapacity (entries.length * valuesPerEntry))⟩
  rw [collect, gather_enough enough, values_found, events_found]

/-- Nothing is kept of values that there is no memory for. -/
theorem collect_short (short : ¬ Enough memory entries) :
    ∃ cause events, collect memory entries = (.error cause, events) ∧
      events <+: foundEvents entries := by
  rw [Enough, ← values_found] at short
  rw [← events_found]
  exact gather_short short

/-- How often an entry has `value`. -/
def SortedEntry.count (value : Bytes) (entry : SortedEntry) : Nat :=
  (entry.textual.map fun (_, texts) => (texts.map Bytes.ofText).count value).sum +
    (entry.binary.map fun (_, values) => values.count value).sum

/-- Nothing is lost, and nothing comes more often than it is there. -/
theorem count_values (value : Bytes) (entries : List SortedEntry) :
    (entries.flatMap SortedEntry.values).count value =
      (entries.map (SortedEntry.count value)).sum := by
  have one (entry : SortedEntry) : entry.values.count value = entry.count value := by
    rw [SortedEntry.values, List.count_append, List.count_flatMap, List.count_flatMap]
    rfl
  rw [List.count_flatMap]
  simp only [Function.comp_def, one]

/-! ## The answer to a search -/

/-- What a search answers, given what came of its request and which memory there is: a failure
with its status, or else all values in their order, as far as there is the memory for them. -/
inductive Answered (memory : Memory) : Except ClientFailure (List SortedEntry) → Reply → Prop
  | failed (failure : ClientFailure) :
      Answered memory (.error failure) ⟨.error (.search failure.status), []⟩
  | found {entries : List SortedEntry} {addresses : AddressSet} (enough : Enough memory entries)
      (values : addresses.toList = entries.flatMap SortedEntry.values) :
      Answered memory (.ok entries) ⟨.ok addresses, matchedEvent entries :: foundEvents entries⟩
  | short {entries : List SortedEntry} {cause : Exhaustion} {events : List Event}
      (short : ¬ Enough memory entries) (told : events <+: foundEvents entries) :
      Answered memory (.ok entries)
        ⟨.error (.resourceExhausted cause), matchedEvent entries :: events⟩

theorem answered_searchReply (memory : Memory) (outcome : Except ClientFailure (List SortedEntry)) :
    Answered memory outcome (searchReply memory outcome) := by
  cases outcome with
  | error failure => exact .failed failure
  | ok entries =>
      by_cases enough : Enough memory entries
      · obtain ⟨addresses, collected, values⟩ := collect_enough enough
        rw [searchReply, collected]
        exact .found enough values
      · obtain ⟨cause, events, collected, told⟩ := collect_short enough
        rw [searchReply, collected]
        exact .short enough told

/-- Whatever was found was answered. -/
theorem answered_of_ok {outcome : Except ClientFailure (List SortedEntry)}
    {addresses : AddressSet} (replied : (searchReply memory outcome).outcome = .ok addresses) :
    ∃ entries, outcome = .ok entries ∧
      addresses.toList = entries.flatMap SortedEntry.values := by
  have answered := answered_searchReply memory outcome
  generalize searchReply memory outcome = reply at answered replied
  cases answered with
  | failed failure => cases replied
  | found enough values =>
      cases replied
      exact ⟨_, rfl, values⟩
  | short => cases replied

end ListExpansion.Ldap
