/-
# ListExpansion.Proofs.Daemon.Listener -- what taking a socket does to files

Before a Unix socket is bound, its path is made ready, which has few courses (`Ensuring`,
`Clearing`, `Preparing`): directories come to be above it where nothing was, and a socket that was
left behind goes (`MadeReady`).  Whatever is apart from the path and all that is above it stays as
it is (`MadeReady.apart`).  A bind that fails has done no more than that, and nothing at all for a
port (`bind_spec`).
-/
import ListExpansion.Daemon.Listener
import ListExpansion.Proofs.Host.Directories
import ListExpansion.Proofs.Host.Machine
import Mathlib.Tactic.ByContra

namespace ListExpansion

set_option autoImplicit false

open FileSystem (Built)

open ListExpansion.Path (Above parent?)

/-- The file of a socket, if it has one. -/
def Socket.file? : Socket → Option Bytes
  | .unix path => some path
  | .inet _ _ => none

namespace FileSystem

/-- What making `path` ready for a socket can do: directories come to be above it where nothing
was, and a socket goes that was left behind where it leads itself. -/
def MadeReady (path : Bytes) (before after : FileSystem) : Prop :=
  ∀ place, after.lookup place = before.lookup place ∨
    (before.lookup place = none ∧ ∃ above mode own, Above path above ∧
      after.find above = .ok (place, .directory mode own)) ∨
    ((∃ endpoint, before.lookup place = some (.socket endpoint)) ∧ after.lookup place = none ∧
      after.placeOf? path = some place)

/-- Neither `path` leads to `place` nor anything above it. -/
structure Apart (files : FileSystem) (path : Bytes) (place : Place) : Prop where
  itself : files.placeOf? path ≠ some place
  above : ∀ above node, Above path above → files.find above ≠ .ok (place, node)

variable {path : Bytes} {before after : FileSystem}

theorem MadeReady.refl (path : Bytes) (files : FileSystem) : MadeReady path files files :=
  fun _ => .inl rfl

theorem MadeReady.apart {place : Place} (ready : MadeReady path before after)
    (apart : after.Apart path place) : after.lookup place = before.lookup place := by
  rcases ready place with same | ⟨-, above, mode, own, is_above, found⟩ | ⟨-, -, here⟩
  · exact same
  · exact absurd found (apart.above above _ is_above)
  · exact absurd here apart.itself

/-- What comes to be for the sake of the parent is above the path. -/
theorem Built.madeReady {umask : Nat} {above : Bytes} (built : Built umask above before after)
    (up : parent? path = some above) : MadeReady path before after := by
  intro place
  cases there : before.lookup place with
  | some node => exact .inl (built.keeps.node there trivial)
  | none =>
      cases there_after : after.lookup place with
      | none => exact .inl rfl
      | some node =>
          obtain ⟨nearer, mode, comes, found, -⟩ := built.made there there_after
          refine .inr (.inl ⟨rfl, nearer, mode, true, ?_, found⟩)
          rcases comes with rfl | comes
          · exact .parent up (ne_nil_of_find found)
          · exact .of_parent up comes

/-- Where a path was made ready, the socket that it leads to may go. -/
theorem MadeReady.erase {between : FileSystem} {gone : Place} {endpoint : Nat}
    (ready : MadeReady path before between) (names : between.placeOf? path = some gone)
    (there : between.lookup gone = some (.socket endpoint)) :
    MadeReady path before (between.erase gone) := by
  have ways := keeps_erase_socket there
  intro place
  rw [lookup_erase]
  by_cases here : place = gone
  · subst here
    rw [if_pos rfl]
    rcases ready place with same | ⟨-, above, mode, own, -, found⟩ | ⟨-, vacant, -⟩
    · exact .inr (.inr ⟨⟨endpoint, same ▸ there⟩, rfl, placeOf?_kept ways id names⟩)
    · cases there.symm.trans (lookup_of_find found)
    · cases there.symm.trans vacant
  · rw [if_neg here]
    rcases ready place with same | ⟨vacant, above, mode, own, is_above, found⟩ | ⟨-, -, there_too⟩
    · exact .inl same
    · exact .inr (.inl ⟨vacant, above, mode, own, is_above, find_kept ways id rfl found⟩)
    · exact absurd (Option.some.inj (there_too.symm.trans names)) here

end FileSystem

namespace Machine

theorem bindSocket_tried {machine after : Machine} {path : Bytes} {answer : Option IoError}
    {endpoint : Nat} (bound : machine.bindSocket path answer = .ok (endpoint, after)) :
    after.tried = machine.tried := by
  have same : machine.bindSocket path answer = (machine.bindSocket path answer).map _ :=
    bindSocket_withRecord machine.tried machine.log path answer
  rw [bound] at same
  rw [(Prod.mk.inj (Except.ok.inj same)).2]
  rfl

theorem bindPort_tried {machine after : Machine} {host : String} {port : Nat}
    {taken : IpAddress × Nat} (bound : machine.bindPort host port = .ok (taken, after)) :
    after.tried = machine.tried := by
  grind [bindPort]

theorem attempt_ok {α : Type} {machine : Machine} {operation : Operation}
    {outcome : Except IoError α} {result : α}
    (succeeded : machine.attempt operation outcome = .ok result) : outcome = .ok result := by
  unfold attempt at succeeded
  split at succeeded
  · cases succeeded
  · exact succeeded

end Machine

namespace Listener

variable (machine : Machine)

/-- The courses that making the socket's directory can take. -/
inductive Ensuring (directory : Bytes) : Except Failure Unit × Machine → Prop
  | lost {error : IoError} (fails : machine.files.exists? directory = .error error) :
      Ensuring directory (.error (.of error.message), machine)
  | there (found : machine.files.exists? directory = .ok true) :
      Ensuring directory (.ok (), machine)
  | unmade {error : IoError} {files : FileSystem}
      (missing : machine.files.exists? directory = .ok false)
      (fails : machine.files.makeTree machine.umask directory = (.error error, files)) :
      Ensuring directory (.error ((Failure.of error.message).during
        ("Unable to create socket directory " ++ Utf8.lossy directory)), { machine with files })
  | made {files : FileSystem} (missing : machine.files.exists? directory = .ok false)
      (makes : machine.files.makeTree machine.umask directory = (.ok (), files)) :
      Ensuring directory (.ok (), { machine with files }.note
        (.own .info ("Created socket directory " ++ Utf8.lossy directory)))

theorem ensureDirectory_ensuring (directory : Bytes) :
    Ensuring machine directory (ensureDirectory machine directory) := by
  unfold ensureDirectory
  split
  · next fails => exact .lost fails
  · next found => exact .there found
  · next missing =>
      split
      · next fails => exact .unmade missing fails
      · next makes => exact .made missing makes

/-- The courses that clearing the way can take. -/
inductive Clearing (path : Bytes) : Except Failure Unit × Machine → Prop
  | absent {error : IoError} (missing : machine.files.inspect path = .error error) :
      Clearing path (.ok (), machine)
  | other {node : Node} (found : machine.files.inspect path = .ok node)
      (no_socket : ∀ endpoint, node ≠ .socket endpoint) :
      Clearing path (.error (.of (Utf8.lossy path ++ " exists and is not a socket")), machine)
  | answered {endpoint reached : Nat} (found : machine.files.inspect path = .ok (.socket endpoint))
      (answers : machine.connect path = .ok reached) :
      Clearing path
        (.error (.of ("Socket already in use by running instance: " ++ Utf8.lossy path)), machine)
  | stuck {endpoint : Nat} {error reason : IoError}
      (found : machine.files.inspect path = .ok (.socket endpoint))
      (silent : machine.connect path = .error error)
      (fails : machine.files.remove path = .error reason) :
      Clearing path (.error ((Failure.of reason.message).during
        ("Unable to remove stale socket " ++ Utf8.lossy path)),
        machine.note (.own .info ("Removing stale socket file " ++ Utf8.lossy path)))
  | removed {endpoint : Nat} {error : IoError} {files : FileSystem}
      (found : machine.files.inspect path = .ok (.socket endpoint))
      (silent : machine.connect path = .error error)
      (removes : machine.files.remove path = .ok files) :
      Clearing path (.ok (),
        { machine.note (.own .info ("Removing stale socket file " ++ Utf8.lossy path)) with files })

theorem clearPath_clearing (path : Bytes) : Clearing machine path (clearPath machine path) := by
  unfold clearPath
  split
  · next missing => exact .absent missing
  · next found =>
      split
      · next answers => exact .answered found answers
      · next silent =>
          simp only
          split
          · next removes => exact .removed found silent removes
          · next fails => exact .stuck found silent fails
  · next no_socket found => exact .other found no_socket

/-- The courses that preparing a path can take. -/
inductive Preparing (path : Bytes) : Except Failure Unit × Machine → Prop
  | bare {outcome : Except Failure Unit × Machine}
      (none_ : ∀ above, Path.parent? path = some above → above = [])
      (clears : Clearing machine path outcome) : Preparing path outcome
  | unready {above : Bytes} {failure : Failure} {after : Machine}
      (up : Path.parent? path = some above) (some_ : above ≠ [])
      (ensures : Ensuring machine above (.error failure, after)) :
      Preparing path (.error failure, after)
  | ready {above : Bytes} {between : Machine} {outcome : Except Failure Unit × Machine}
      (up : Path.parent? path = some above) (some_ : above ≠ [])
      (ensures : Ensuring machine above (.ok (), between))
      (clears : Clearing between path outcome) :
      Preparing path outcome

theorem prepare_preparing (path : Bytes) : Preparing machine path (prepare machine path) := by
  unfold prepare
  split
  · next none_ =>
      refine .bare (fun above up => ?_) (clearPath_clearing machine path)
      by_contra some_
      simp [up, some_] at none_
  · next directory filtered =>
      obtain ⟨up, some_⟩ := Option.filter_eq_some_iff.1 filtered
      have some_ : directory ≠ [] := by simpa using some_
      have ensures := ensureDirectory_ensuring machine directory
      split
      · next fails => exact .unready up some_ (fails ▸ ensures)
      · next between readies =>
          exact .ready up some_ (readies ▸ ensures) (clearPath_clearing between path)

variable {machine}

theorem Ensuring.spec {directory : Bytes} {outcome : Except Failure Unit × Machine}
    (course : Ensuring machine directory outcome) : outcome.2.tried = machine.tried ∧
      Built machine.umask directory machine.files outcome.2.files := by
  have built := machine.files.makeTree_built machine.umask directory
  cases course with
  | lost => exact ⟨rfl, .refl _ _ _⟩
  | there => exact ⟨rfl, .refl _ _ _⟩
  | unmade _ fails => exact ⟨rfl, by rwa [fails] at built⟩
  | made _ makes => exact ⟨rfl, by rwa [makes] at built⟩

/-- At most a socket at the path itself goes. -/
theorem Clearing.spec {path : Bytes} {outcome : Except Failure Unit × Machine}
    {before : FileSystem} (ready : FileSystem.MadeReady path before machine.files)
    (course : Clearing machine path outcome) : outcome.2.tried = machine.tried ∧
      FileSystem.MadeReady path before outcome.2.files := by
  cases course with
  | absent => exact ⟨rfl, ready⟩
  | other => exact ⟨rfl, ready⟩
  | answered => exact ⟨rfl, ready⟩
  | stuck => exact ⟨rfl, ready⟩
  | @removed _ _ files found _ removes =>
      obtain ⟨directory, name, named, rfl⟩ := FileSystem.remove_inspected found removes
      exact ⟨rfl, ready.erase (FileSystem.placeOf?_named named) (FileSystem.lookup_of_named named)⟩

variable (machine)

theorem prepare_spec (path : Bytes) :
    (prepare machine path).2.tried = machine.tried ∧
      FileSystem.MadeReady path machine.files (prepare machine path).2.files := by
  have course := prepare_preparing machine path
  generalize prepare machine path = outcome at course ⊢
  cases course with
  | bare _ clears => exact clears.spec (.refl _ _)
  | unready up _ ensures =>
      obtain ⟨tried, built⟩ := ensures.spec
      exact ⟨tried, built.madeReady up⟩
  | ready up _ ensures clears =>
      obtain ⟨tried, built⟩ := ensures.spec
      obtain ⟨triedToo, ready⟩ := clears.spec (built.madeReady up)
      exact ⟨triedToo.trans tried, ready⟩

/-- Taking a socket adds nothing to the operations; it fails having made the path ready at
most. -/
theorem take_spec (socket : Socket) :
    (take machine socket).2.tried = machine.tried ∧
      (∀ listener, (take machine socket).1 = .ok listener → listener.socketFile = socket.file?) ∧
      ∀ failure, (take machine socket).1 = .error failure →
        (socket.file? = none → (take machine socket).2.files = machine.files) ∧
        ∀ path, socket.file? = some path →
          FileSystem.MadeReady path machine.files (take machine socket).2.files := by
  cases socket with
  | unix path =>
      obtain ⟨tried, ready⟩ := prepare_spec machine path
      unfold take
      simp only
      unfold bindUnix
      split
      · next failed =>
          rw [failed] at tried ready
          refine ⟨tried, nofun, fun _ _ => ⟨nofun, ?_⟩⟩
          rintro _ ⟨⟩
          exact ready
      · next between prepared =>
          rw [prepared] at tried ready
          split
          · next bound =>
              have bound := Machine.attempt_ok bound
              exact ⟨(Machine.bindSocket_tried bound).trans tried, fun _ ok => by cases ok; rfl,
                nofun⟩
          · refine ⟨tried, nofun, fun _ _ => ⟨nofun, ?_⟩⟩
            rintro _ ⟨⟩
            exact ready
  | inet host port =>
      unfold take
      simp only
      unfold bindTcp
      split
      · next bound =>
          have bound := Machine.attempt_ok bound
          exact ⟨Machine.bindPort_tried bound, fun _ ok => by cases ok; rfl, nofun⟩
      · exact ⟨rfl, nofun, fun _ _ => ⟨fun _ => rfl, nofun⟩⟩

/-- All that is known of a bind, whether or not it succeeds. -/
theorem bind_spec (socket : Socket) :
    Machine.Went [.bind] machine (bind machine socket).2 ∧
      (∀ listener, (bind machine socket).1 = .ok listener → listener.socketFile = socket.file?) ∧
      ∀ failure, (bind machine socket).1 = .error failure →
        (socket.file? = none → (bind machine socket).2.files = machine.files) ∧
        ∀ path, socket.file? = some path →
          FileSystem.MadeReady path machine.files (bind machine socket).2.files := by
  obtain ⟨tried, ok, error⟩ := take_spec { machine.trying .bind with log := [] } socket
  unfold bind
  simp only
  split
  · next failed =>
      rw [failed] at tried error
      exact ⟨⟨tried, List.prefix_append _ _⟩, nofun, fun _ _ => error _ rfl⟩
  · next taken =>
      rw [taken] at tried ok
      exact ⟨⟨tried, List.prefix_append _ _⟩, fun _ same => by cases same; exact ok _ rfl, nofun⟩

end Listener

end ListExpansion
