/-
# ListExpansion.Proofs.Daemon.Preparation -- preparing a socket's path is confined

Before a Unix socket is bound, directories may have to be made above its path, and a socket
that was left behind may have to go.  `Prepared` says that nothing else comes of it: which
places may be filled and with what, which one may be emptied, that it is never both, and what
holds when all went well.

That it is never both rests on the files being a tree: a directory that had to be made is empty,
so no socket is there to be removed.
-/
import ListExpansion.Proofs.Daemon.Listener

namespace ListExpansion

set_option autoImplicit false

open FileSystem (Rooted Absent Built masked)

open ListExpansion.Path (IsPlain Above parent?)

namespace Listener

variable {machine between after : Machine} {path above : Bytes} {place : Place}
  {outcome : Except Failure Unit}

/-- A directory of ours comes to be at an empty place, to which a path above `path` leads.  Its
permissions are 0755 less the mask. -/
def MadeAbove (path : Bytes) (before after : Machine) (place : Place) : Prop :=
  before.files.lookup place = none ∧ ∃ above mode, Above path above ∧
    after.files.find above = .ok (place, .directory mode true) ∧
    mode % 0o1000 = masked before.umask 0o755

/-- A socket goes from the place that `path` itself names. -/
def Cleared (path : Bytes) (before after : Machine) (place : Place) : Prop :=
  before.files.placeOf? path = some place ∧
    (∃ endpoint, before.files.lookup place = some (.socket endpoint)) ∧
    after.files.lookup place = none

/-- All that preparing `path` may do, and what it comes to. -/
structure Prepared (path : Bytes) (before : Machine) (outcome : Except Failure Unit)
    (after : Machine) : Prop where
  /-- Besides files only the log changes, and no other directory becomes the current one. -/
  rest : after = { before with files := after.files, log := after.log }
  current : after.files.current = before.files.current
  rooted : after.files.Rooted
  confined : ∀ place, after.files.lookup place = before.files.lookup place ∨
    MadeAbove path before after place ∨ Cleared path before after place
  /-- Never both. -/
  single : (∀ place, ¬ MadeAbove path before after place) ∨
    ∀ place, ¬ Cleared path before after place
  /-- Whatever else is at the path itself is in the way, and stays with all the rest. -/
  spared : ∀ node, before.files.inspect path = .ok node → (∀ endpoint, node ≠ .socket endpoint) →
    (∃ failure, outcome = .error failure) ∧ after.files = before.files
  /-- If all went well, nothing is at the path. -/
  absent : outcome = .ok () → after.files.Absent path
  /-- And what is above it is there, under a path of its own or as the current directory. -/
  parent : outcome = .ok () → ∀ above, parent? path = some above → above ≠ [] →
    after.files.exists? above = .ok true
  here : parent? path = some [] → ∀ mode own,
    before.files.lookup before.files.current = some (.directory mode own) →
      after.files.lookup after.files.current = some (.directory mode own)

/-! ## The courses one by one -/

theorem not_madeAbove (empty : ∀ place, machine.files.lookup place = none →
    after.files.lookup place = none) (place : Place) : ¬ MadeAbove path machine after place := by
  rintro ⟨vacant, _, _, -, found, -⟩
  cases (FileSystem.lookup_of_find found).symm.trans (empty place vacant)

namespace Prepared

/-- Nothing happened to files. -/
theorem unchanged (rooted : machine.files.Rooted)
    (rest : after = { machine with files := machine.files, log := after.log })
    (spared : ∀ node, machine.files.inspect path = .ok node → (∀ endpoint, node ≠ .socket endpoint) →
      ∃ failure, outcome = .error failure)
    (absent : outcome = .ok () → machine.files.Absent path)
    (parent : outcome = .ok () → ∀ above, parent? path = some above → above ≠ [] →
      machine.files.exists? above = .ok true) : Prepared path machine outcome after := by
  have same : after.files = machine.files := by rw [rest]
  rw [← same] at rest rooted absent parent
  refine ⟨rest, by rw [same], rooted, ?confined, ?single, ?spared, absent, parent, ?here⟩
  case confined =>
    intro place
    exact .inl (by rw [same])
  case single =>
    refine .inl (not_madeAbove fun place empty => ?_)
    rw [same]
    exact empty
  case spared =>
    intro node found no_socket
    exact ⟨spared node found no_socket, same⟩
  case here =>
    intro _ mode own there
    rw [same]
    exact there

/-- The socket that was at the path is removed. -/
theorem removed {endpoint : Nat} (rooted : machine.files.Rooted) (plain : IsPlain path)
    (rest : after = { machine with files := after.files, log := after.log })
    (found : machine.files.inspect path = .ok (.socket endpoint))
    (removes : machine.files.remove path = .ok after.files) :
    Prepared path machine outcome after := by
  have open_ := (FileSystem.remove_ok removes).1
  obtain ⟨directory, name, named, erased⟩ := FileSystem.remove_inspected found removes
  have socket := FileSystem.lookup_of_named named
  have keeps := FileSystem.keeps_erase_socket socket
  have rooted_after := rooted.erase socket rfl
  rw [← erased] at keeps rooted_after
  have looks (place : Place) : after.files.lookup place =
      if place = directory ++ [name] then none else machine.files.lookup place := by
    rw [erased, FileSystem.lookup_erase]
  refine ⟨rest, keeps.current, rooted_after, ?confined, ?single, ?spared, ?absent, ?parent, ?here⟩
  case confined =>
    intro place
    by_cases here : place = directory ++ [name]
    · subst here
      have gone := (looks (directory ++ [name])).trans (if_pos rfl)
      exact .inr (.inr ⟨FileSystem.placeOf?_named named, ⟨endpoint, socket⟩, gone⟩)
    · exact .inl ((looks place).trans (if_neg here))
  case single =>
    refine .inl (not_madeAbove fun place empty => ?_)
    rw [looks, empty, ite_self]
  case spared =>
    intro node seen no_socket
    cases found.symm.trans seen
    exact absurd rfl (no_socket endpoint)
  case absent =>
    intro _
    have named_after := FileSystem.named_kept keeps id named
    rw [looks, if_pos rfl] at named_after
    have missing : after.files.inspect path = .error .notFound := by
      simp only [FileSystem.inspect, open_, Bool.false_eq_true, if_false, named_after]
    exact .inl ⟨.notFound, by decide, missing⟩
  case parent =>
    intro _ above up some_
    obtain ⟨_, _, first, -, found_above, is_directory⟩ :=
      FileSystem.parent_of_inspect plain up some_ found
    have leads := Node.leadsOn_of_isDirectory is_directory
    exact FileSystem.exists?_eq_true_iff.2
      ⟨_, _, FileSystem.find_kept keeps id leads found_above⟩
  case here =>
    intro _ mode own there
    rw [keeps.current]
    exact keeps.node there rfl

/-- Directories were made above the path, as far as that went. -/
theorem built (rooted : after.files.Rooted) (up : parent? path = some above) (some_ : above ≠ [])
    (rest : after = { machine with files := after.files, log := after.log })
    (plain : IsPlain path) (missing : machine.files.exists? above = .ok false)
    (grown : Built machine.umask above machine.files after.files)
    (ready : outcome = .ok () → after.files.Absent path ∧ after.files.exists? above = .ok true) :
    Prepared path machine outcome after := by
  have made {place : Place} (empty : machine.files.lookup place = none) {node : Node}
      (there : after.files.lookup place = some node) : MadeAbove path machine after place := by
    obtain ⟨further, mode, comes, found, mode_eq⟩ := grown.made empty there
    refine ⟨empty, further, mode, ?_, found, mode_eq⟩
    rcases comes with rfl | comes
    · exact .parent up some_
    · exact .of_parent up comes
  refine ⟨rest, grown.keeps.current, rooted, ?confined, ?single, ?spared, ?absent, ?parent, ?here⟩
  case confined =>
    intro place
    cases there : machine.files.lookup place with
    | some node => exact .inl (grown.keeps.node there trivial)
    | none =>
        cases there_after : after.files.lookup place with
        | none => exact .inl rfl
        | some node => exact .inr (.inl (made there there_after))
  case single =>
    refine .inr ?_
    rintro place ⟨-, ⟨endpoint, socket⟩, gone⟩
    cases (grown.keeps.node socket trivial).symm.trans gone
  case spared =>
    -- Whoever sees something at the path has found the parent, and that was missing.
    intro node found no_socket
    obtain ⟨_, _, _, -, found_above, -⟩ := FileSystem.parent_of_inspect plain up some_ found
    cases (FileSystem.exists?_eq_true_iff.2 ⟨_, _, found_above⟩).symm.trans missing
  case absent =>
    intro ok
    exact (ready ok).1
  case parent =>
    intro ok other up_too _
    cases up.symm.trans up_too
    exact (ready ok).2
  case here =>
    intro up_too
    cases up.symm.trans up_too
    exact absurd rfl some_

/-- Where all is found above the path, only a socket at the path itself may go. -/
theorem of_clearing (rooted : machine.files.Rooted) (plain : IsPlain path)
    (allowed : machine.files.inspect path ≠ .error .accessDenied)
    (found : ∀ above, parent? path = some above → above ≠ [] →
      machine.files.exists? above = .ok true)
    (clears : Clearing machine path (outcome, after)) : Prepared path machine outcome after := by
  have finds (above : Bytes) (up : parent? path = some above) (some_ : above ≠ []) :
      ∃ place node, machine.files.find above = .ok (place, node) :=
    FileSystem.exists?_eq_true_iff.1 (found above up some_)
  cases clears with
  | @absent error missing =>
      refine .unchanged rooted rfl (fun node there => nomatch missing.symm.trans there) (fun _ => ?_)
        fun _ => found
      refine FileSystem.absent_of_error plain finds missing ?_
      rintro rfl
      exact allowed missing
  | other there no_socket =>
      exact .unchanged rooted rfl (fun _ _ _ => ⟨_, rfl⟩) nofun nofun
  | answered there answers => exact .unchanged rooted rfl (fun _ _ _ => ⟨_, rfl⟩) nofun nofun
  | stuck there silent fails => exact .unchanged rooted rfl (fun _ _ _ => ⟨_, rfl⟩) nofun nofun
  | removed there silent removes => exact .removed rooted plain rfl there removes

/-- Where a directory was made just now, nothing is and nothing goes. -/
theorem of_made (rooted : machine.files.Rooted) (plain : IsPlain path)
    (up : parent? path = some above) (some_ : above ≠ [])
    (missing : machine.files.exists? above = .ok false) {files : FileSystem} {event : Event}
    (makes : machine.files.makeTree machine.umask above = (.ok (), files))
    (clears : Clearing ({ machine with files }.note event) path (outcome, after)) :
    Prepared path machine outcome after := by
  have grown := machine.files.makeTree_built machine.umask above
  have rooted_after := rooted.makeTree machine.umask above
  rw [makes] at grown rooted_after
  obtain ⟨directory, node, found, -, before | empty⟩ :=
    FileSystem.makeTree_ok rooted (Path.parent?_plain plain up) some_ makes
  · cases (FileSystem.exists?_eq_true_iff.2 ⟨_, _, before⟩).symm.trans missing
  have nothing (node : Node) : files.inspect path ≠ .ok node := by
    intro seen
    obtain ⟨_, name, _, named, found_too, -⟩ := FileSystem.parent_of_inspect plain up some_ seen
    cases found.symm.trans found_too
    cases (empty name).symm.trans (FileSystem.lookup_of_named named)
  cases clears with
  | absent missed =>
      refine .built rooted_after up some_ rfl plain missing grown fun _ => ⟨.inr ?_, ?_⟩
      · exact ⟨above, directory, node, up, found, empty⟩
      · exact FileSystem.exists?_eq_true_iff.2 ⟨directory, node, found⟩
  | other seen => exact absurd seen (nothing _)
  | answered seen => exact absurd seen (nothing _)
  | stuck seen => exact absurd seen (nothing _)
  | removed seen => exact absurd seen (nothing _)

end Prepared

/-- **Preparing a path is confined,** whatever tree the files are and whichever plain path it is,
as long as its lookup is not refused. -/
theorem prepare_confined (rooted : machine.files.Rooted) (plain : IsPlain path)
    (allowed : machine.files.inspect path ≠ .error .accessDenied) :
    Prepared path machine (prepare machine path).1 (prepare machine path).2 := by
  have course := prepare_preparing machine path
  generalize prepare machine path = outcome at course ⊢
  obtain ⟨outcome, after⟩ := outcome
  cases course with
  | bare none_ clears =>
      exact .of_clearing rooted plain allowed (fun above up some_ => absurd (none_ above up) some_)
        clears
  | @unready above _ _ up some_ ensures =>
      cases ensures with
      | lost fails => exact .unchanged rooted rfl (fun _ _ _ => ⟨_, rfl⟩) nofun nofun
      | unmade missing fails =>
          have grown := machine.files.makeTree_built machine.umask above
          have rooted_after := rooted.makeTree machine.umask above
          rw [fails] at grown rooted_after
          exact .built rooted_after up some_ rfl plain missing grown nofun
  | ready up some_ ensures clears =>
      cases ensures with
      | there found =>
          refine .of_clearing rooted plain allowed (fun above upToo _ => ?_) clears
          cases up.symm.trans upToo
          exact found
      | made missing makes => exact .of_made rooted plain up some_ missing makes clears

namespace Example

/-- A host that has nothing but a directory. -/
def host : Machine :=
  .new ⟨[([], .directory 0o755 false), ([Bytes.ofText "run"], .directory 0o755 true)], []⟩ 7

def socketPath : Bytes := Bytes.ofText "/run/milter/alias"

end Example

theorem prepare_confined_missing :
    Example.host.files.Rooted ∧ IsPlain Example.socketPath ∧
      Example.host.files.inspect Example.socketPath ≠ .error .accessDenied ∧
      (prepare Example.host Example.socketPath).1.isOk = true ∧
      Prepared Example.socketPath Example.host (prepare Example.host Example.socketPath).1
        (prepare Example.host Example.socketPath).2 := by
  have rooted : Example.host.files.Rooted := FileSystem.rooted_of_nodes (by decide +kernel)
  have plain : IsPlain Example.socketPath := by decide +kernel
  have allowed : Example.host.files.inspect Example.socketPath ≠ .error .accessDenied := by
    decide +kernel
  exact ⟨rooted, plain, allowed, by decide +kernel, prepare_confined rooted plain allowed⟩

end Listener

end ListExpansion
