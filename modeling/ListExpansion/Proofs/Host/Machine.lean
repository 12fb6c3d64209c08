/-
# ListExpansion.Proofs.Host.Machine -- what a machine has on record

A machine records what was tried and what was told of it.  `Went` says what a piece of work
added; pieces add up (`Went.trans`).  Others leave the record alone and do not read it
(`disturbed_withRecord`).

A file that was discarded is gone, or an ERROR tells why not (`discard_spec`).
-/
import ListExpansion.Host.Disturbance
import ListExpansion.Proofs.Host.Changes

namespace ListExpansion.Machine

set_option autoImplicit false

variable {machine : Machine}

/-- The machine with another record of what it tried and told. -/
def withRecord (machine : Machine) (tried : List Operation) (log : List Event) : Machine :=
  { machine with tried, log }

theorem bindAbstract_withRecord (tried : List Operation) (log : List Event) (name : Bytes) :
    (machine.withRecord tried log).bindAbstract name =
      (machine.bindAbstract name).map fun (endpoint, after) =>
        (endpoint, after.withRecord tried log) := by
  unfold bindAbstract
  rw [apply_ite (Except.map _), apply_ite (Except.map _)]
  rfl

theorem bindSocket_withRecord (tried : List Operation) (log : List Event) (path : Bytes)
    (answer : Option IoError) :
    (machine.withRecord tried log).bindSocket path answer =
      (machine.bindSocket path answer).map fun (endpoint, after) =>
        (endpoint, after.withRecord tried log) := by
  have files : (machine.withRecord tried log).files.makeSocket path
      (machine.withRecord tried log).fresh = machine.files.makeSocket path machine.fresh := rfl
  unfold bindSocket
  split
  · rfl
  · exact bindAbstract_withRecord tried log _
  · rw [files]
    cases checkSocketPath path with
    | error error => rfl
    | ok valid => cases machine.files.makeSocket path machine.fresh <;> rfl

/-- From `before` to `after` these operations were tried; nothing of the log was lost. -/
structure Went (operations : List Operation) (before after : Machine) : Prop where
  tried : after.tried = before.tried ++ operations
  log : before.log <+: after.log

theorem Went.trans {one two : List Operation} {before between after : Machine}
    (first : Went one before between) (second : Went two between after) :
    Went (one ++ two) before after where
  tried := by rw [second.tried, first.tried, List.append_assoc]
  log := first.log.trans second.log

/-- The log tells `event` after what it told before. -/
def Tells (before after : Machine) (event : Event) : Prop :=
  ∃ more, after.log = before.log ++ more ∧ event ∈ more

theorem Tells.trans {before between after : Machine} {event : Event}
    (tells : Tells before between event) (onward : between.log <+: after.log) :
    Tells before after event := by
  obtain ⟨more, log, member⟩ := tells
  obtain ⟨rest, last⟩ := onward
  exact ⟨more ++ rest, by rw [← last, log, List.append_assoc], List.mem_append_left _ member⟩

theorem Tells.since {earlier before after : Machine} {event : Event}
    (tells : Tells before after event) (onward : earlier.log <+: before.log) :
    Tells earlier after event := by
  obtain ⟨more, log, member⟩ := tells
  obtain ⟨rest, first⟩ := onward
  exact ⟨rest ++ more, by rw [log, ← first, List.append_assoc], List.mem_append_right _ member⟩

/-! ## Discarding a file -/

/-- Why a file is still there that was to be discarded. -/
def keptEvent (what : String) (path : Bytes) (reason : String) : Event :=
  .own .error ("Unable to remove " ++ what ++ " " ++ Utf8.lossy path ++ ": " ++ reason)

/-- What discarding a file comes to: it is gone, or the log tells why not. -/
structure Discarded (operation : Operation) (what : String) (path : Bytes)
    (before after : Machine) : Prop where
  went : Went [operation] before after
  files : after.files = before.files ∨ before.files.remove path = .ok after.files
  settled : after.files.Gone path ∨ ∃ reason, Tells before after (keptEvent what path reason)

theorem Discarded.touched {operation : Operation} {what : String} {path : Bytes}
    {before after : Machine} {paths : List Bytes}
    (discarded : Discarded operation what path before after) (member : path ∈ paths) :
    FileSystem.Touched paths before.files after.files := by
  rcases discarded.files with same | removed
  · rw [same]
    exact .refl paths _
  · exact .remove removed member

/-- What is gone stays so while more is discarded. -/
theorem Discarded.gone {operation : Operation} {what : String} {path other : Bytes}
    {before after : Machine} (discarded : Discarded operation what path before after)
    (gone : before.files.Gone other) : after.files.Gone other := by
  rcases discarded.files with same | removed
  · rwa [same]
  · obtain ⟨-, directory, name, node, -, -, erased⟩ := FileSystem.remove_ok removed
    rw [erased]
    exact gone.erase _

end ListExpansion.Machine
