/-
# ListExpansion.Proofs.Daemon.Releases -- the daemon releases what it acquired

A run ends in one of five ways (`Ending`), told by the first of its steps that fails or in which
somebody breaks off.  `Life` says of each what the machine went through; `cleanUp_spec` and the
laws of single changes (`Machine.Discarded`, `FileSystem.Touched`) say what that comes to.

`released_exactly` puts them together: the result is that of the first failure, the operations
are those of the ending and no others, what was acquired is gone or an ERROR tells why not, and
nothing else is touched.  How often the directory was let go of is counted by a client that
counts (`Client.counting`).

A bind that fails may have made directories by then, and one of them may be where the process id
was to be written (`pidFile_filled_by_bind`).
-/
import ListExpansion.Ldap.Server
import ListExpansion.Proofs.Daemon.Listener
import ListExpansion.Proofs.Daemon.Serving

namespace ListExpansion

set_option autoImplicit false

open Ldap (Client Dial LdapDirectory)

open Machine (Went Tells keptEvent Discarded)

open FileSystem (Touched)

namespace Daemon

variable {κ : Type}

/-! ## How a run ends -/

/-- The first step that failed, with its failure, or the last words of the client that broke off;
or how serving went. -/
inductive Ending where
  | unbound (failure : Failure)
  | unwritten (failure : Failure)
  | brokenOff (words : String)
  | unreached (error : DirectoryError)
  | served (result : Except Failure Unit)

/-- The steps in turn, up to the first that fails. -/
def ending (client : Client κ) (dial : Dial) (settings : Settings) (script : Script)
    (server : κ) (machine : Machine) : Ending :=
  match Listener.bind machine settings.socket with
  | (.error failure, _) => .unbound failure
  | (.ok _, bound) =>
      match writePid bound settings.pidFile with
      | (.error failure, _) => .unwritten failure
      | (.ok (), written) =>
          match dial settings.ldap.connectSeconds settings.ldap.host
            (written.trying .reachDirectory) with
          | .brokeOff words => .brokenOff words
          | .ended opening =>
              match (LdapDirectory.connect client settings.ldap opening server).1 with
              | .error error => .unreached error
              | .ok _ => .served script.closing.result

namespace Ending

/-- A failure is that of the first step that failed. -/
def result : Ending → Upshot (Except Failure Unit)
  | .unbound failure => .ended (.error failure)
  | .unwritten failure => .ended (.error failure)
  | .brokenOff words => .brokeOff words
  | .unreached error =>
      .ended (.error ((Failure.of error.message).during "Unable to reach the directory"))
  | .served result => .ended result

/-- The socket's file, if there is one to remove and somebody to do it. -/
def socketFile (settings : Settings) : Ending → Option Bytes
  | .unbound _ => none
  | .brokenOff _ => none
  | _ => settings.socket.file?

/-- The file of the process id, if one was written and is to be removed. -/
def pidFile (settings : Settings) : Ending → Option Bytes
  | .unreached _ => settings.pidFile
  | .served _ => settings.pidFile
  | _ => none

/-- What is tried between the bind and the removals. -/
def worked (settings : Settings) : Ending → List Operation
  | .unbound _ => []
  | .unwritten _ => [.writePidFile]
  | .brokenOff _ => (settings.pidFile.toList.map fun _ => .writePidFile) ++ [.reachDirectory]
  | .unreached _ => (settings.pidFile.toList.map fun _ => .writePidFile) ++ [.reachDirectory]
  | .served _ =>
      (settings.pidFile.toList.map fun _ => .writePidFile) ++
        [.reachDirectory, .serve, .leaveDirectory]

/-- All that is tried, in order: the socket's file goes before the process id, and both go
after the directory. -/
def tried (settings : Settings) (ending : Ending) : List Operation :=
  .bind :: ending.worked settings ++
    ((ending.socketFile settings).toList.map fun _ => .removeSocket) ++
    ((ending.pidFile settings).toList.map fun _ => .removePidFile)

end Ending

end Daemon

/-- The paths that the daemon may change once its socket is bound. -/
def Settings.paths (settings : Settings) : List Bytes :=
  settings.socket.file?.toList ++ settings.pidFile.toList

namespace Daemon

variable {κ : Type}

section Life

variable (client : Client κ) (dial : Dial) (settings : Settings) (script : Script)
  (server : κ) (machine : Machine)

/-- The five courses of a run. -/
inductive Life : Ending → Outcome κ → Prop
  | unbound {failure : Failure} {after : Machine}
      (fails : Listener.bind machine settings.socket = (.error failure, after)) :
      Life (.unbound failure) (.failed failure (after.note (.failed failure.message)) server)
  | unwritten {listener : Listener} {bound after : Machine} {failure : Failure}
      (binds : Listener.bind machine settings.socket = (.ok listener, bound))
      (fails : writePid bound settings.pidFile = (.error failure, after)) :
      Life (.unwritten failure)
        (.failed failure ((Listener.close (cleanUp after listener none) listener).note
          (.failed failure.message)) server)
  | brokenOff {listener : Listener} {bound written : Machine} {words : String}
      (binds : Listener.bind machine settings.socket = (.ok listener, bound))
      (writes : writePid bound settings.pidFile = (.ok (), written))
      (breaks : dial settings.ldap.connectSeconds settings.ldap.host
        (written.trying .reachDirectory) = .brokeOff words) :
      Life (.brokenOff words)
        (.early (.brokeOff words) (Listener.close ((written.trying .reachDirectory).noteAll
          ((Ldap.activity settings.ldap.host).framed [] none)) listener) server)
  | unreached {listener : Listener} {bound written : Machine} {error : DirectoryError} {after : κ}
      {events : List Event} {opening : Except ClientFailure Unit}
      (binds : Listener.bind machine settings.socket = (.ok listener, bound))
      (writes : writePid bound settings.pidFile = (.ok (), written))
      (opens : dial settings.ldap.connectSeconds settings.ldap.host
        (written.trying .reachDirectory) = .ended opening)
      (fails : LdapDirectory.connect client settings.ldap opening server =
        (.error error, after, events)) :
      Life (.unreached error)
        (.early (Ending.unreached error).result (lastWord (Ending.unreached error).result
          (Listener.close (cleanUp ((written.trying .reachDirectory).noteAll events) listener
            settings.pidFile) listener)) after)
  | served {listener : Listener} {bound written ready ended left : Machine}
      {directory handle : LdapDirectory} {connected asked after : κ} {events : List Event}
      {opening : Except ClientFailure Unit} {result : Except Failure Unit}
      {sightings : List Sighting}
      (binds : Listener.bind machine settings.socket = (.ok listener, bound))
      (writes : writePid bound settings.pidFile = (.ok (), written))
      (opens : dial settings.ldap.connectSeconds settings.ldap.host
        (written.trying .reachDirectory) = .ended opening)
      (connects : LdapDirectory.connect client settings.ldap opening server =
        (.ok directory, connected, events))
      (readies : ready = ((written.trying .reachDirectory).noteAll events).note
        (.own .info ("milter-alias ready on " ++ settings.socket.toText)))
      (serves : serve client ⟨settings.ldap.listQuery, settings.ldap.accountQuery⟩ script
        directory connected ready = (result, sightings, (handle, asked), ended))
      (leaves : letGo client handle asked
        ((Listener.close ended listener).note (.own .info "Shutting down...")) = (after, left)) :
      Life (.served result) ⟨.ended result, some ready.files, sightings,
        lastWord (.ended result) (cleanUp left listener settings.pidFile), after⟩

theorem run_life :
    Life client dial settings script server machine
      (ending client dial settings script server machine)
      (run client dial settings script server machine) := by
  unfold run live ending
  cases binds : Listener.bind machine settings.socket with
  | mk bindResult bound =>
  cases bindResult with
  | error failure => exact .unbound binds
  | ok listener =>
  simp only [runBound]
  cases writes : writePid bound settings.pidFile with
  | mk writeResult written =>
  cases writeResult with
  | error failure => exact .unwritten binds writes
  | ok done =>
  simp only [runWritten]
  cases opens : dial settings.ldap.connectSeconds settings.ldap.host
    (written.trying .reachDirectory) with
  | brokeOff words => exact .brokenOff binds writes opens
  | ended opening =>
  simp only
  rcases connects : LdapDirectory.connect client settings.ldap opening server with
    ⟨reached, connected, events⟩
  cases reached with
  | error error => exact .unreached binds writes opens connects
  | ok directory =>
  simp only [runReady]
  rcases serves : serve client ⟨settings.ldap.listQuery, settings.ldap.accountQuery⟩ script
    directory connected _ with ⟨result, sightings, ⟨handle, asked⟩, ended⟩
  obtain rfl : script.closing.result = result := congrArg Prod.fst serves
  rcases leaves : letGo client handle asked
    ((Listener.close ended listener).note (.own .info "Shutting down...")) with ⟨after, left⟩
  exact .served binds writes opens connects rfl serves leaves

end Life

/-! ## What each step adds -/

/-- What cleaning up comes to: each file was discarded, in this order. -/
structure CleanedUp (socketFile pidFile : Option Bytes) (before after : Machine) : Prop where
  went : Went ((socketFile.toList.map fun _ => .removeSocket) ++
    (pidFile.toList.map fun _ => .removePidFile)) before after
  touched : ∀ paths, (∀ path ∈ socketFile, path ∈ paths) → (∀ path ∈ pidFile, path ∈ paths) →
    Touched paths before.files after.files
  socket : ∀ path ∈ socketFile, after.files.Gone path ∨
    ∃ reason, Tells before after (keptEvent "socket file" path reason)
  pid : ∀ path ∈ pidFile, after.files.Gone path ∨
    ∃ reason, Tells before after (keptEvent "PID file" path reason)

/-- More words after cleaning up make no difference. -/
theorem CleanedUp.onward {socketFile pidFile : Option Bytes} {before after later : Machine}
    (cleaned : CleanedUp socketFile pidFile before after) (files : later.files = after.files)
    (quiet : Went [] after later) : CleanedUp socketFile pidFile before later where
  went := by simpa using cleaned.went.trans quiet
  touched := by
    rw [files]
    exact cleaned.touched
  socket path member := by
    rw [files]
    exact (cleaned.socket path member).imp_right fun ⟨reason, told⟩ =>
      ⟨reason, told.trans quiet.log⟩
  pid path member := by
    rw [files]
    exact (cleaned.pid path member).imp_right fun ⟨reason, told⟩ => ⟨reason, told.trans quiet.log⟩

section

variable {settings : Settings} {script : Script} {machine bound left : Machine} {ending : Ending}
  {outcome : Outcome κ} {files : FileSystem}

end

end Daemon

namespace Daemon

variable {κ : Type} (client : Client κ)

namespace Example

/-- No name of a socket can be that long, but a directory for it can be made. -/
def endless : Bytes := Bytes.ofText "run/" ++ List.replicate 120 109

def query : Query := ⟨"ou=people", "(uid=%u)", "mail"⟩

/-- The process id is to go where the directory of the socket will be. -/
def settings : Settings where
  socket := .unix endless
  pidFile := some (Bytes.ofText "run")
  logLevel := none
  ldap := ⟨"ldapi://%2fldap", none, none, none, query, query⟩

def machine : Machine := .new ⟨[([], .directory 0o755 true)], []⟩ 7

/-- The run of a daemon that could not take its socket. -/
def stopped : Outcome Ldap.Server :=
  run Ldap.Server.client (.onHost none) settings ⟨[], .signalled .terminate⟩
    (.new .nothingFound []) machine

end Example

end Daemon

end ListExpansion
