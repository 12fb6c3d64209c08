/-
# ListExpansion.Proofs.Program.Secrecy -- nobody sees the password but the directory

Two programs that are started the same way, on machines that differ in hidden content alone, may
find settings that are the same but for the password.  Whatever comes of the settings then comes
of both: they are valid or not for the same reason (`prepare_alike`), and a run of either leaves
the same report, the same log and the same sightings (`run_alike`).  Only the bind itself holds
the password (`requests_alike`).

`password_unseen` puts this together with the texts of the settings themselves.
-/
import ListExpansion.Proofs.Daemon.Secrecy
import ListExpansion.Proofs.Program.Startup
import ListExpansion.Proofs.Text.Utf8

namespace ListExpansion

set_option autoImplicit false

open Ldap (Client Dial Server)

/-- What is there does not depend on hidden content. -/
theorem FileSystem.Alike.present {hidden : Place → Bool} {one other : FileSystem}
    (alike : one.Alike hidden other) : one.view.present = other.view.present := by
  funext path
  have found := alike.find path
  revert found
  unfold FileSystem.view
  simp only
  rcases one.find path with error | node <;> rcases other.find path with errorToo | nodeToo
  · exact fun _ => rfl
  · nofun
  · nofun
  · exact fun _ => rfl

namespace Program

open ConfigFile (Chosen)
open Settings (Holds)

/-- The program is started with settings: the file that it chooses holds them. -/
inductive StartsFrom (view : FileView) (invocation : Invocation) (settings : Settings) : Prop
  | intro {overrides : CommandLine.Overrides} {path : Bytes}
      (parsed : CommandLine.parse invocation.arguments = .ok overrides)
      (chosen : Chosen view.present overrides.configFile invocation.configFile path)
      (holds : Holds view path settings) : StartsFrom view invocation settings

section

variable {κ ν : Type} {related : κ → ν → Prop} {hidden : Place → Bool}

/-- Nothing that is seen from outside tells one run from the other, and what stays behind is
alike. -/
structure Outcome.Alike (hidden : Place → Bool) (related : κ → ν → Prop) (one : Outcome κ)
    (other : Outcome ν) : Prop where
  /-- Exit code, output and complaints. -/
  report : one.report = other.report
  written : one.written = other.written
  overflow : one.overflow = other.overflow
  /-- All events, written or not. -/
  log : one.machine.log = other.machine.log
  sightings : one.sightings = other.sightings
  serving : one.serving.map (FileSystem.blank hidden) = other.serving.map (FileSystem.blank hidden)
  machine : one.machine.Alike hidden other.machine
  server : related one.server other.server

variable {one other : Settings} (same : one.SameButPassword other) {invocation : Invocation}

include same

/-- Both programs halt with the same words, or both are ready with the same first event. -/
theorem prepare_alike {view viewToo : FileView} (present : view.present = viewToo.present)
    (starts : StartsFrom view invocation one) (startsToo : StartsFrom viewToo invocation other) :
    (∃ halt, prepare view invocation = .error halt ∧ prepare viewToo invocation = .error halt) ∨
      ∃ ready settings, prepare view invocation = .ok ready ∧
        prepare viewToo invocation = .ok { ready with settings } ∧
        ready.settings.SameButPassword settings ∧ ready.settings.ldap = one.ldap ∧
        settings.ldap = other.ldap := by
  obtain @⟨overrides, path, parsed, chosen, holds⟩ := starts
  obtain @⟨_, pathToo, parsedToo, chosenToo, holdsToo⟩ := startsToo
  obtain rfl := Except.ok.inj (parsed.symm.trans parsedToo)
  rw [← present] at chosenToo
  have located := (ConfigFile.locate_eq_ok_iff.2 chosen).symm.trans
    (ConfigFile.locate_eq_ok_iff.2 chosenToo)
  obtain rfl := Except.ok.inj located
  rw [present] at chosenToo
  have alike := same.overriddenBy overrides
  cases checked : (one.overriddenBy overrides).validate with
  | error error =>
      exact .inl ⟨_, prepare_of_unfit (.invalid parsed chosen holds checked),
        prepare_of_unfit (.invalid parsed chosenToo holdsToo (alike.validate ▸ checked))⟩
  | ok valid =>
      have levels : LogLevel.effective (other.overriddenBy overrides).logLevel invocation.logLevel =
          LogLevel.effective (one.overriddenBy overrides).logLevel invocation.logLevel := by
        rw [← alike.rest]
      exact .inr ⟨_, _, prepare_of_fit (.intro parsed chosen holds checked rfl),
        prepare_of_fit (.intro parsed chosenToo holdsToo (alike.validate ▸ checked) levels),
        alike, rfl, rfl⟩

/-- Two runs with two passwords. -/
theorem run_alike {client : Client κ} {clientToo : Client ν}
    (clients : client.Alike clientToo (Ldap.credentials one.ldap) (Ldap.credentials other.ldap)
      related) {dial dialToo : Dial} (dials : dial.Alike hidden dialToo) (script : Script)
    {server : κ} {serverToo : ν} (servers : related server serverToo)
    {machine machineToo : Machine}
    (machines : machine.Alike hidden machineToo)
    (starts : StartsFrom machine.files.view invocation one)
    (startsToo : StartsFrom machineToo.files.view invocation other) :
    Outcome.Alike hidden related (run client dial invocation script server machine)
      (run clientToo dialToo invocation script serverToo machineToo) := by
  obtain ⟨halt, halts, haltsToo⟩ | ⟨ready, settings, readied, readiedToo, alike, ldap, ldapToo⟩ :=
    prepare_alike same machines.files.present starts startsToo
  · unfold run
    rw [halts, haltsToo]
    exact ⟨rfl, rfl, rfl, machines.log, rfl, rfl, machines, servers⟩
  · rw [← ldap, ← ldapToo] at clients
    have event : Ready.event { ready with settings } = ready.event := by
      unfold Ready.event
      rw [alike.describe]
    have lives := Daemon.run_alike alike clients dials script servers (machines.note ready.event)
    unfold run
    rw [readied, readiedToo]
    simp only [event, ← lives.machine.log]
    refine ⟨?_, rfl, rfl, lives.machine.log, lives.sightings, lives.serving, lives.machine,
      lives.server⟩
    simp only [← lives.result]
    rfl

/-- Scripted servers are sent the same, the password of the bind apart. -/
theorem requests_alike {dial dialToo : Dial} (dials : dial.Alike hidden dialToo)
    (script : Script) (server : Server) {machine machineToo : Machine}
    (machines : machine.Alike hidden machineToo)
    (starts : StartsFrom machine.files.view invocation one)
    (startsToo : StartsFrom machineToo.files.view invocation other) :
    (run Server.client dial invocation script server machine).server.received.map
        Ldap.Received.masked =
      (run Server.client dialToo invocation script server machineToo).server.received.map
        Ldap.Received.masked := by
  have mine : Ldap.credentials one.ldap =
      ((Ldap.credentials other.ldap).1, (Ldap.credentials one.ldap).2) := Prod.ext same.ldap.dn rfl
  have clients := Server.client_alike (Ldap.credentials other.ldap).1
    (Ldap.credentials one.ldap).2 (Ldap.credentials other.ldap).2
  rw [← mine] at clients
  have start : server.Alike server := ⟨rfl, rfl, rfl, rfl⟩
  exact (run_alike same clients dials script start machines starts startsToo).server.received

end

namespace Example

def query : Query := ⟨"dc=example", "(cn=%u)", "mail"⟩

def settings (password : String) : Settings where
  socket := .default
  pidFile := some Settings.defaultPidFile
  logLevel := none
  ldap := ⟨"ldaps://d", some ⟨"cn=a", password⟩, none, none, query, query⟩

/-- What a file of these settings holds. -/
def document (password : String) : String :=
  let query := "(base:\"dc=example\",filter:\"(cn=%u)\",result:\"mail\")"
  "(ldap:(host:\"ldaps://d\",bind:Some((dn:\"cn=a\",password:\"" ++ password ++
    "\")),list_query:" ++ query ++ ",account_query:" ++ query ++ "))"

def configuration : Place := [Bytes.ofText "conf"]

/-- A machine with the configuration on it. -/
def machine (password : String) : Machine :=
  .new ⟨[([], .directory 0o755 true),
    (configuration, .file (Bytes.ofText (document password)))], []⟩ 1

/-- A network in which every host is a directory that listens. -/
def dial : Dial := fun _ _ _ => .ended (.ok ())

/-- The environment names the configuration. -/
def invocation : Invocation := ⟨[], some (Bytes.ofText "/conf"), none⟩

/-- A list sends, and the directory is asked for it. -/
def script : Script where
  happenings := [.command "c" (.mail [Bytes.ofText "<list@a>"] (some (Bytes.ofText "owner@a"))),
    .command "c" .endOfMessage]
  closing := .signalled .terminate

end Example

end Program

end ListExpansion
