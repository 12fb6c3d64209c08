/-
# ListExpansion.Proofs.Daemon.Secrecy -- two daemons with two passwords

Two daemons may have settings that are the same but for the password, machines that differ in
hidden content alone, connections that open alike (`Ldap.Dial.Alike`) and clients that answer
alike.  Step by step they have the same results, say the same and leave their machines alike;
`run_alike` says so of their whole lives.
-/
import ListExpansion.Proofs.Daemon.Serving
import ListExpansion.Proofs.Ldap.Password

namespace ListExpansion

set_option autoImplicit false

open Ldap (Client Dial LdapDirectory)

open Machine (EndAlike)

variable {hidden : Place → Bool} {machine machineToo : Machine}

/-! ## The connection -/

/-- On machines that differ in hidden content alone the same comes of opening a connection. -/
def Ldap.Dial.Alike (hidden : Place → Bool) (dial dialToo : Dial) : Prop :=
  ∀ limit url {machine machineToo}, machine.Alike hidden machineToo →
    dial limit url machine = dialToo limit url machineToo

/-- On a host without a network no way leads through files' content. -/
theorem Ldap.Dial.onHost_alike (hidden : Place → Bool) (listening : Option Nat) :
    (Dial.onHost listening).Alike hidden (.onHost listening) := by
  intro limit url machine machineToo alike
  have connects : machine.connect = machineToo.connect := funext alike.connect
  unfold Dial.onHost
  rw [connects]

/-! ## The socket and the process id -/

namespace Listener

theorem ensureDirectory_alike (alike : machine.Alike hidden machineToo) (directory : Bytes) :
    EndAlike hidden (ensureDirectory machine directory) (ensureDirectory machineToo directory) := by
  have tree := alike.files.makeTree machine.umask directory
  have masks : machineToo.files.makeTree machineToo.umask directory =
      machineToo.files.makeTree machine.umask directory := by rw [alike.umask]
  unfold ensureDirectory
  rw [alike.files.exists? directory, masks]
  cases machineToo.files.exists? directory with
  | error error => exact ⟨rfl, alike⟩
  | ok there =>
      cases there with
      | true => exact ⟨rfl, alike⟩
      | false =>
          revert tree
          rcases machine.files.makeTree machine.umask directory with ⟨made, files⟩
          rcases machineToo.files.makeTree machine.umask directory with ⟨madeToo, filesToo⟩
          rintro ⟨rfl, same⟩
          cases made with
          | error error => exact ⟨rfl, alike.refiled same⟩
          | ok made => exact ⟨rfl, (alike.refiled same).note _⟩

/-- A stale socket is one in either place, whatever else is in files. -/
theorem clearPath_alike (alike : machine.Alike hidden machineToo) (path : Bytes) :
    EndAlike hidden (clearPath machine path) (clearPath machineToo path) := by
  have inspected := alike.files.inspect path
  unfold clearPath
  rw [alike.connect path]
  revert inspected
  rcases machine.files.inspect path with error | node <;>
    rcases machineToo.files.inspect path with errorToo | nodeToo
  · exact fun _ => ⟨rfl, alike⟩
  · nofun
  · nofun
  · intro inspected
    replace inspected : node.blank = nodeToo.blank := Except.ok.inj inspected
    cases node <;> cases nodeToo <;> cases inspected
    case ok.ok.socket.socket.refl =>
      simp only
      cases machineToo.connect path with
      | ok answered => exact ⟨rfl, alike⟩
      | error refused =>
          have noted := alike.note (.own .info ("Removing stale socket file " ++ Utf8.lossy path))
          obtain ⟨error, failed, failedToo⟩ | ⟨files, filesToo, done, doneToo, same⟩ :=
            noted.files.remove path
          · simp only [failed, failedToo]
            exact ⟨rfl, noted⟩
          · simp only [done, doneToo]
            exact ⟨rfl, noted.refiled same⟩
    all_goals exact ⟨rfl, alike⟩

theorem prepare_alike (alike : machine.Alike hidden machineToo) (path : Bytes) :
    EndAlike hidden (prepare machine path) (prepare machineToo path) := by
  unfold prepare
  split
  · exact clearPath_alike alike path
  · next directory _ =>
      obtain ⟨result, after, afterToo, ends, endsToo, next⟩ :=
        (ensureDirectory_alike alike directory).cases
      rw [ends, endsToo]
      cases result with
      | error failure => exact ⟨rfl, next⟩
      | ok made => exact clearPath_alike next path

theorem take_alike (alike : machine.Alike hidden machineToo) (socket : Socket) :
    EndAlike hidden (take machine socket) (take machineToo socket) := by
  cases socket with
  | unix path =>
      obtain ⟨result, after, afterToo, ends, endsToo, next⟩ := (prepare_alike alike path).cases
      simp only [take, bindUnix, ends, endsToo]
      cases result with
      | error failure => exact ⟨rfl, next⟩
      | ok prepared =>
          obtain ⟨error, failed, failedToo⟩ | ⟨endpoint, bound, boundToo, done, doneToo, same⟩ :=
            EndAlike.likewise_cases (next.attempt .bind (next.bindSocket path none))
          · simp only [failed, failedToo]
            exact ⟨rfl, next⟩
          · simp only [done, doneToo]
            exact ⟨rfl, same⟩
  | inet host port =>
      simp only [take, bindTcp]
      obtain ⟨error, failed, failedToo⟩ | ⟨taken, bound, boundToo, done, doneToo, same⟩ :=
        EndAlike.likewise_cases (alike.attempt .bind (alike.bindPort host port))
      · simp only [failed, failedToo]
        exact ⟨rfl, alike⟩
      · simp only [done, doneToo]
        exact ⟨rfl, same⟩

theorem bind_alike (alike : machine.Alike hidden machineToo) (socket : Socket) :
    EndAlike hidden (bind machine socket) (bind machineToo socket) := by
  obtain ⟨result, after, afterToo, ends, endsToo, next⟩ :=
    (take_alike ((alike.trying .bind).retold []) socket).cases
  unfold bind
  rw [ends, endsToo]
  cases result with
  | error failure =>
      simp only [alike.log, next.log]
      exact ⟨rfl, next.retold _⟩
  | ok listener =>
      simp only [alike.log, next.log]
      exact ⟨rfl, next.retold _⟩

theorem close_alike (alike : machine.Alike hidden machineToo) (listener : Listener) :
    (close machine listener).Alike hidden (close machineToo listener) := by
  cases listener with
  | unix path endpoint => exact alike.release endpoint
  | tcp port => exact alike.releasePort port

end Listener

namespace Daemon

theorem writePid_alike (alike : machine.Alike hidden machineToo) (pidFile : Option Bytes) :
    EndAlike hidden (writePid machine pidFile) (writePid machineToo pidFile) := by
  cases pidFile with
  | none => exact ⟨rfl, alike⟩
  | some path =>
      have tries := alike.trying .writePidFile
      have content : PidFile.content (machine.trying .writePidFile).processId =
          PidFile.content (machineToo.trying .writePidFile).processId :=
        congrArg PidFile.content tries.processId
      simp only [writePid, PidFile.create, content]
      obtain ⟨error, failed, failedToo⟩ | ⟨files, filesToo, done, doneToo, same⟩ :=
        tries.attempt .writePidFile (tries.files.write path
          (PidFile.content (machineToo.trying .writePidFile).processId))
      · simp only [failed, failedToo]
        exact ⟨rfl, tries⟩
      · simp only [done, doneToo]
        exact ⟨rfl, (tries.refiled same).note _⟩

theorem cleanUp_alike (alike : machine.Alike hidden machineToo) (listener : Listener)
    (pidFile : Option Bytes) :
    (cleanUp machine listener pidFile).Alike hidden (cleanUp machineToo listener pidFile) := by
  unfold cleanUp
  cases listener.socketFile with
  | none =>
      cases pidFile with
      | none => exact alike
      | some path => exact alike.discard .removePidFile "PID file" path
  | some socketPath =>
      have removed := alike.discard .removeSocket "socket file" socketPath
      cases pidFile with
      | none => exact removed
      | some path => exact removed.discard .removePidFile "PID file" path

/-! ## The directory -/

section

variable {κ ν : Type} {client : Client κ} {clientToo : Client ν} {related : κ → ν → Prop}
  {mine theirs : String × String} {server : κ} {serverToo : ν}

theorem letGo_alike (clients : client.Alike clientToo mine theirs related)
    (directory : LdapDirectory) (servers : related server serverToo)
    (alike : machine.Alike hidden machineToo) :
    let left := letGo client directory server machine
    let leftToo := letGo clientToo directory serverToo machineToo
    related left.1 leftToo.1 ∧ left.2.Alike hidden leftToo.2 := by
  have left := clients.disconnect directory servers
  revert left
  unfold letGo
  rcases LdapDirectory.disconnect client directory server with ⟨result, handle, after, events⟩
  rcases LdapDirectory.disconnect clientToo directory serverToo with ⟨_, _, afterToo, _⟩
  rintro ⟨⟨⟩, ⟨⟩, next, ⟨⟩⟩
  have told := (alike.trying .leaveDirectory).noteAll events
  cases result with
  | ok done => exact ⟨next, told⟩
  | error error => exact ⟨next, told.note _⟩

/-! ## The run -/

/-- The same result and sightings; files, machines and servers that are alike. -/
structure Outcome.Alike (hidden : Place → Bool) (related : κ → ν → Prop) (one : Outcome κ)
    (other : Outcome ν) : Prop where
  result : one.result = other.result
  serving : one.serving.map (FileSystem.blank hidden) = other.serving.map (FileSystem.blank hidden)
  sightings : one.sightings = other.sightings
  machine : one.machine.Alike hidden other.machine
  server : related one.server other.server

theorem Outcome.Alike.early (result : Upshot (Except Failure Unit))
    (alike : machine.Alike hidden machineToo) (servers : related server serverToo) :
    Outcome.Alike hidden related (.early result machine server)
      (.early result machineToo serverToo) :=
  ⟨rfl, rfl, rfl, alike, servers⟩

theorem lastWord_alike (result : Upshot (Except Failure Unit))
    (alike : machine.Alike hidden machineToo) :
    (lastWord result machine).Alike hidden (lastWord result machineToo) := by
  unfold lastWord
  split
  · exact alike.note _
  · exact alike

variable {settings settingsToo : Settings} (same : settings.SameButPassword settingsToo)
  (clients : client.Alike clientToo (Ldap.credentials settings.ldap)
    (Ldap.credentials settingsToo.ldap) related)

include same clients

theorem runReady_alike (script : Script) (listener : Listener) (directory : LdapDirectory)
    (servers : related server serverToo) (alike : machine.Alike hidden machineToo) :
    Outcome.Alike hidden related
      (runReady client settings script listener directory server machine)
      (runReady clientToo settingsToo script listener directory serverToo machineToo) := by
  have ready := alike.note (.own .info ("milter-alias ready on " ++ settings.socket.toText))
  have start : Ldap.SameAnswer related (directory, server) (directory, serverToo) := ⟨rfl, servers⟩
  have served := serve_simulated clients.simulates
    ⟨settings.ldap.listQuery, settings.ldap.accountQuery⟩ script start ready
  revert served
  unfold runReady
  simp only [← same.ldap.listQuery, ← same.ldap.accountQuery, ← same.socket, ← same.pidFile]
  rcases serve client _ script directory server _ with ⟨result, sightings, ⟨handle, after⟩, ended⟩
  rcases serve clientToo _ script directory serverToo _ with
    ⟨_, _, ⟨_, afterToo⟩, endedToo⟩
  rintro ⟨⟨⟩, ⟨⟩, ⟨⟨⟩, asked⟩, next⟩
  obtain ⟨left, leftMachine⟩ := letGo_alike clients handle asked
    ((Listener.close_alike next listener).note (.own .info "Shutting down..."))
  exact ⟨rfl, congrArg some ready.files, rfl, cleanUp_alike leftMachine listener settings.pidFile,
    left⟩

variable {dial dialToo : Dial} (dials : dial.Alike hidden dialToo) (script : Script)

include dials

theorem runWritten_alike (listener : Listener) (servers : related server serverToo)
    (alike : machine.Alike hidden machineToo) :
    Outcome.Alike hidden related
      (runWritten client dial settings script listener server machine)
      (runWritten clientToo dialToo settingsToo script listener serverToo machineToo) := by
  have tries := alike.trying .reachDirectory
  have opens := dials settings.ldap.connectSeconds settings.ldap.host tries
  simp only [runWritten, ← same.pidFile, ← same.ldap.connectSeconds, ← same.ldap.host, ← opens]
  cases dial settings.ldap.connectSeconds settings.ldap.host
    (machine.trying .reachDirectory) with
  | brokeOff words => exact .early _ (Listener.close_alike (tries.noteAll _) listener) servers
  | ended opening =>
      have reached := clients.connect same.ldap opening servers
      revert reached
      simp only
      rcases LdapDirectory.connect client settings.ldap opening server with
        ⟨outcome, after, events⟩
      rcases LdapDirectory.connect clientToo settingsToo.ldap opening serverToo with
        ⟨_, afterToo, _⟩
      rintro ⟨⟨⟩, connected, ⟨⟩⟩
      cases outcome with
      | error error =>
          exact .early _ (Listener.close_alike
            (cleanUp_alike (tries.noteAll events) listener settings.pidFile) listener) connected
      | ok directory =>
          exact runReady_alike same clients script listener directory connected
            (tries.noteAll events)

theorem runBound_alike (listener : Listener) (servers : related server serverToo)
    (alike : machine.Alike hidden machineToo) :
    Outcome.Alike hidden related
      (runBound client dial settings script listener server machine)
      (runBound clientToo dialToo settingsToo script listener serverToo machineToo) := by
  obtain ⟨result, written, writtenToo, ends, endsToo, next⟩ :=
    (writePid_alike alike settings.pidFile).cases
  simp only [runBound, ← same.pidFile, ends, endsToo]
  cases result with
  | error failure =>
      exact .early _ (Listener.close_alike (cleanUp_alike next listener none) listener) servers
  | ok done => exact runWritten_alike same clients dials script listener servers next

theorem live_alike (servers : related server serverToo)
    (alike : machine.Alike hidden machineToo) :
    Outcome.Alike hidden related (live client dial settings script server machine)
      (live clientToo dialToo settingsToo script serverToo machineToo) := by
  obtain ⟨result, bound, boundToo, ends, endsToo, next⟩ :=
    (Listener.bind_alike alike settings.socket).cases
  simp only [live, ← same.socket, ends, endsToo]
  cases result with
  | error failure => exact .early _ next servers
  | ok listener => exact runBound_alike same clients dials script listener servers next

/-- Two passwords make no difference to a daemon's life but to the bind itself. -/
theorem run_alike (servers : related server serverToo)
    (alike : machine.Alike hidden machineToo) :
    Outcome.Alike hidden related (run client dial settings script server machine)
      (run clientToo dialToo settingsToo script serverToo machineToo) := by
  have lives := live_alike same clients dials script servers alike
  have last := lastWord_alike (live client dial settings script server machine).result
    lives.machine
  refine ⟨lives.result, lives.serving, lives.sightings, ?_, lives.server⟩
  simp only [run, ← lives.result]
  exact last

end

end Daemon

end ListExpansion
