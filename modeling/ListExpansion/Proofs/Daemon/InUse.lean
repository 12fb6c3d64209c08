/-
# ListExpansion.Proofs.Daemon.InUse -- which sockets are spared

One attempt to connect decides whether a socket is in use.  Where it is accepted the socket
stays: taking it fails, and so does a whole run, which has touched nothing by then, its own
process id's file included (`Spared`).  Where it is not, for whatever reason, the socket goes.

So it goes as well where somebody is bound to it with whom no connection comes about, such as
one that takes datagrams only (`bound_socket_removed`); an error is no sign that a socket is
stale, unless it is that connections are refused.
-/
import ListExpansion.Proofs.Daemon.Preparation
import ListExpansion.Proofs.Daemon.Releases

namespace ListExpansion

set_option autoImplicit false

open FileSystem (Keeps)

open ListExpansion.Path (IsPlain)

namespace Listener

variable {machine after : Machine} {path : Bytes} {endpoint reached : Nat}

/-- All that was there is still there; more directories may be. -/
abbrev Retained (before after : Machine) : Prop :=
  Keeps (fun _ => True) before.files after.files

/-- Connections are still accepted as long as files stay and whoever is bound to sockets. -/
theorem connect_kept (keeps : Retained machine after) (bound : after.bound = machine.bound)
    (names : after.abstractNames = machine.abstractNames)
    (answers : machine.connect path = .ok reached) : after.connect path = .ok reached := by
  unfold Machine.connect at answers ⊢
  split at answers
  · simpa only [Machine.connectAbstract, Machine.answer, bound, names] using answers
  · split at answers
    · cases answers
    · split at answers
      · cases answers
      · next place endpoint found =>
          simp only [FileSystem.find_kept keeps (fun _ => trivial) trivial found]
          simpa only [Machine.answer, bound] using answers
      · cases answers

theorem Ensuring.retained {above : Bytes} {outcome : Except Failure Unit × Machine}
    (course : Ensuring machine above outcome) : Retained machine outcome.2 ∧
      outcome.2.bound = machine.bound ∧ outcome.2.abstractNames = machine.abstractNames := by
  have built := (machine.files.makeTree_built machine.umask above).keeps
  cases course with
  | lost => exact ⟨.refl _ _, rfl, rfl⟩
  | there => exact ⟨.refl _ _, rfl, rfl⟩
  | unmade _ fails => exact ⟨by rwa [fails] at built, rfl, rfl⟩
  | made _ makes => exact ⟨by rwa [makes] at built, rfl, rfl⟩

/-- The way is not cleared of a socket that accepts connections. -/
theorem Clearing.spares {outcome : Except Failure Unit × Machine}
    (course : Clearing machine path outcome)
    (found : machine.files.inspect path = .ok (.socket endpoint))
    (answers : machine.connect path = .ok reached) :
    (∃ failure, outcome.1 = .error failure) ∧ Retained machine outcome.2 := by
  cases course with
  | absent missing => cases found.symm.trans missing
  | other seen no_socket =>
      cases found.symm.trans seen
      exact absurd rfl (no_socket endpoint)
  | answered => exact ⟨⟨_, rfl⟩, .refl _ _⟩
  | stuck _ silent => cases answers.symm.trans silent
  | removed _ silent => cases answers.symm.trans silent

theorem Preparing.spares {outcome : Except Failure Unit × Machine}
    (course : Preparing machine path outcome)
    (found : machine.files.inspect path = .ok (.socket endpoint))
    (answers : machine.connect path = .ok reached) :
    (∃ failure, outcome.1 = .error failure) ∧ Retained machine outcome.2 := by
  cases course with
  | bare none_ clears => exact clears.spares found answers
  | unready up some_ ensures => exact ⟨⟨_, rfl⟩, ensures.retained.1⟩
  | ready up some_ ensures clears =>
      obtain ⟨keeps, bound, names⟩ := ensures.retained
      obtain ⟨fails, keeps_too⟩ := clears.spares (FileSystem.inspect_kept keeps found)
        (connect_kept keeps bound names answers)
      exact ⟨fails, keeps.trans keeps_too⟩

/-- A bind to `path` fails and so does every run, before anything else is tried, and all that was
there is still there. -/
structure Spared (path : Bytes) (machine : Machine) : Prop where
  bind : (∃ failure, (bind machine (.unix path)).1 = .error failure) ∧
    Retained machine (bind machine (.unix path)).2
  run : ∀ {κ : Type} (client : Ldap.Client κ) (dial : Ldap.Dial) (settings : Settings)
    (script : Script) (server : κ), settings.socket = .unix path →
    let outcome := Daemon.run client dial settings script server machine
    (∃ failure, outcome.result = .ended (.error failure)) ∧ outcome.serving = none ∧
      outcome.machine.tried = machine.tried ++ [.bind] ∧ Retained machine outcome.machine

theorem bind_spares (found : machine.files.inspect path = .ok (.socket endpoint))
    (answers : machine.connect path = .ok reached) :
    (∃ failure, (bind machine (.unix path)).1 = .error failure) ∧
      Retained machine (bind machine (.unix path)).2 := by
  have begins : Retained machine { machine.trying .bind with log := [] } := .refl _ _
  obtain ⟨⟨failure, fails⟩, keeps⟩ :=
    (prepare_preparing { machine.trying .bind with log := [] } path).spares found
      (connect_kept begins rfl rfl answers)
  rcases prepared : prepare { machine.trying .bind with log := [] } path with ⟨result, after⟩
  rw [prepared] at fails keeps
  cases fails
  simp only [bind, take, bindUnix, prepared]
  exact ⟨⟨failure, rfl⟩, keeps⟩

/-- A socket that accepts connections is spared, whatever files there are and wherever it is. -/
theorem spared_of_answer (found : machine.files.inspect path = .ok (.socket endpoint))
    (answers : machine.connect path = .ok reached) : Spared path machine where
  bind := bind_spares found answers
  run := by
    intro κ client dial settings script server socket_eq
    obtain ⟨⟨failure, fails⟩, keeps⟩ := bind_spares found answers
    have went := (bind_spec machine (.unix path)).1
    rw [← socket_eq] at fails keeps went
    have life := Daemon.run_life client dial settings script server machine
    generalize Daemon.ending client dial settings script server machine = ending at life
    generalize Daemon.run client dial settings script server machine = outcome at life ⊢
    cases life with
    | unbound unbound =>
        rw [unbound] at keeps went
        exact ⟨⟨_, rfl⟩, rfl, went.tried, keeps⟩
    | unwritten binds =>
        rw [binds] at fails
        cases fails
    | brokenOff binds =>
        rw [binds] at fails
        cases fails
    | unreached binds =>
        rw [binds] at fails
        cases fails
    | served binds =>
        rw [binds] at fails
        cases fails

/-- A socket that accepts no connection is removed if it can be, whatever the error. -/
theorem removed_of_silence {error : IoError} {files : FileSystem} (plain : IsPlain path)
    (found : machine.files.inspect path = .ok (.socket endpoint))
    (silent : machine.connect path = .error error)
    (removes : machine.files.remove path = .ok files) :
    (prepare machine path).1 = .ok () ∧ (prepare machine path).2.files = files ∧
      files.Gone path := by
  have cleared {outcome : Except Failure Unit × Machine} (course : Clearing machine path outcome) :
      outcome.1 = .ok () ∧ outcome.2.files = files := by
    cases course with
    | absent missing => cases found.symm.trans missing
    | other seen no_socket =>
        cases found.symm.trans seen
        exact absurd rfl (no_socket endpoint)
    | answered _ answers => cases silent.symm.trans answers
    | stuck _ _ fails => cases removes.symm.trans fails
    | removed _ _ removes_too =>
        cases removes.symm.trans removes_too
        exact ⟨rfl, rfl⟩
  have above_exists {above : Bytes} (up : Path.parent? path = some above) (some_ : above ≠ []) :
      machine.files.exists? above = .ok true := by
    obtain ⟨_, _, _, -, found_above, -⟩ := FileSystem.parent_of_inspect plain up some_ found
    exact FileSystem.exists?_eq_true_iff.2 ⟨_, _, found_above⟩
  have course := prepare_preparing machine path
  generalize prepare machine path = outcome at course ⊢
  have gone := FileSystem.gone_of_remove removes
  cases course with
  | bare none_ clears => exact ⟨(cleared clears).1, (cleared clears).2, gone⟩
  | unready up some_ ensures =>
      cases ensures with
      | lost fails => cases fails.symm.trans (above_exists up some_)
      | unmade missing => cases missing.symm.trans (above_exists up some_)
  | ready up some_ ensures clears =>
      cases ensures with
      | there => exact ⟨(cleared clears).1, (cleared clears).2, gone⟩
      | made missing => cases missing.symm.trans (above_exists up some_)

/-- **The attempt to connect decides, and nothing else.**  Who answers is spared, and a socket that
nobody answers on goes if it can be removed. -/
theorem judged_by_connecting (found : machine.files.inspect path = .ok (.socket endpoint)) :
    (∀ reached, machine.connect path = .ok reached → Spared path machine) ∧
      ∀ error files, IsPlain path → machine.connect path = .error error →
        machine.files.remove path = .ok files →
          (prepare machine path).1 = .ok () ∧ (prepare machine path).2.files = files ∧
            files.Gone path :=
  ⟨fun _ answers => spared_of_answer found answers,
    fun _ _ plain silent removes => removed_of_silence plain found silent removes⟩

namespace Example

/-- A host with one socket, bound to by somebody who meets connections in this way. -/
def bound (answer : Option IoError) : Machine :=
  { Machine.new ⟨[([], .directory 0o755 true), ([Bytes.ofText "m"], .socket 0)], []⟩ 7 with
    bound := [(0, answer)]
    fresh := 1 }

end Example

theorem judged_by_connecting_accepted :
    (Example.bound none).files.inspect (Bytes.ofText "m") = .ok (.socket 0) ∧
      Spared (Bytes.ofText "m") (Example.bound none) := by
  have found : (Example.bound none).files.inspect (Bytes.ofText "m") = .ok (.socket 0) := by
    decide +kernel
  have answers : (Example.bound none).connect (Bytes.ofText "m") = .ok 0 := by decide +kernel
  exact ⟨found, (judged_by_connecting found).1 0 answers⟩

/-- Somebody is bound to a socket for datagrams; it is removed all the same, and another bound in
its place. -/
theorem bound_socket_removed :
    let machine := Example.bound (some .wrongSocketType)
    let path := Bytes.ofText "m"
    machine.files.inspect path = .ok (.socket 0) ∧ (machine.bound.lookup 0).isSome = true ∧
      machine.connect path = .error .wrongSocketType ∧
      (bind machine (.unix path)).1.isOk = true ∧
      (bind machine (.unix path)).2.files.inspect path = .ok (.socket 1) := by
  decide +kernel

end Listener

end ListExpansion
