/-
# ListExpansion.Daemon.Run -- the life of the daemon

The daemon takes its socket, writes its process id, reaches the directory, serves
until it is signalled, lets go of the directory and removes its files.  Whatever
stops it on the way, it removes what it made and nothing else: first the socket's
file, then the process id.  Only if the client breaks off as it reaches for the
directory is there nobody left to remove anything.

While it serves, the mail server speaks and others may touch files; both follow a
script, and so does the end of it: a signal comes, or connections can no longer be
accepted.
-/
import ListExpansion.Config.Settings
import ListExpansion.Daemon.Listener
import ListExpansion.Daemon.PidFile
import ListExpansion.Host.Disturbance
import ListExpansion.Ldap.Dial
import ListExpansion.Ldap.Directory
import ListExpansion.Milter.Conversation

namespace ListExpansion

set_option autoImplicit false

open Ldap (Client Dial LdapDirectory)

/-- The signals that end the daemon. -/
inductive Signal where
  | terminate
  | interrupt
  deriving DecidableEq, Repr

def Signal.event : Signal → Event
  | .terminate => .own .info "Terminate signal received, shutting down"
  | .interrupt => .own .info "Interrupted, shutting down"

/-- What happens while the daemon serves. -/
inductive Happening where
  | command (connection : String) (command : Command)
  | disturbance (disturbance : Disturbance)

/-- What the one who made it happen sees. -/
inductive Sighting where
  /-- The response, and whether the connection was opened for the command. -/
  | response (opening : Bool) (response : Response)
  | nothing

/-- How serving ends. -/
inductive Closing where
  | signalled (signal : Signal)
  /-- No connection can be accepted any more; those that are there may be closed first. -/
  | deafened (reason : String) (orderly : Bool)

/-- What is told of the end. -/
def Closing.events : Closing → List Event
  | .signalled signal => [signal.event]
  | .deafened _ _ => []

/-- Whether connections are closed before all ends. -/
def Closing.isOrderly : Closing → Bool
  | .signalled _ => true
  | .deafened _ orderly => orderly

def Closing.result : Closing → Except Failure Unit
  | .signalled _ => .ok ()
  | .deafened reason _ => .error ((Failure.of reason).during "Milter sessions failed")

structure Script where
  happenings : List Happening
  closing : Closing

namespace Daemon

variable {κ : Type}

/-- What became of a run. -/
structure Outcome (κ : Type) where
  result : Upshot (Except Failure Unit)
  /-- The files when serving began, if it did. -/
  serving : Option FileSystem
  sightings : List Sighting
  machine : Machine
  server : κ

/-- A run that ended before serving. -/
def Outcome.early (result : Upshot (Except Failure Unit)) (machine : Machine) (server : κ) :
    Outcome κ :=
  ⟨result, none, [], machine, server⟩

/-- A run that failed before serving. -/
def Outcome.failed (failure : Failure) (machine : Machine) (server : κ) : Outcome κ :=
  .early (.ended (.error failure)) machine server

/-! ## Serving -/

/-- What the daemon and the machine are while it serves. -/
structure Serving (κ : Type) where
  conversation : Conversation (LdapDirectory × κ)
  machine : Machine

/-- One happening. -/
def Serving.step (client : Client κ) (serving : Serving κ) : Happening → Sighting × Serving κ
  | .command connection command =>
      let opening := !serving.conversation.isOpen connection
      let (response, conversation, events) :=
        serving.conversation.step (LdapDirectory.asDirectory client) connection command
      (.response opening response, ⟨conversation, serving.machine.noteAll events⟩)
  | .disturbance disturbance =>
      (.nothing, { serving with machine := serving.machine.disturbed disturbance })

/-- All happenings in turn. -/
def Serving.steps (client : Client κ) (serving : Serving κ) : List Happening → List Sighting × Serving κ
  | [] => ([], serving)
  | happening :: rest =>
      let (sighting, serving) := serving.step client happening
      let (sightings, serving) := serving.steps client rest
      (sighting :: sightings, serving)

/-- Serving ends and connections are closed. -/
def Serving.stop (serving : Serving κ) (closing : Closing) : Filter (LdapDirectory × κ) × Machine :=
  let machine := serving.machine.noteAll closing.events
  if closing.isOrderly then
    let (filter, events) := serving.conversation.shutDown
    (filter, machine.noteAll events)
  else (serving.conversation.filter, machine)

/-- Serves to the end of the script. -/
def serve (client : Client κ) (lookups : Lookups) (script : Script) (directory : LdapDirectory)
    (server : κ) (machine : Machine) :
    Except Failure Unit × List Sighting × (LdapDirectory × κ) × Machine :=
  let start : Serving κ := ⟨.new (.new lookups (directory, server)), machine.trying .serve⟩
  let (sightings, serving) := start.steps client script.happenings
  let (filter, machine) := serving.stop script.closing
  (script.closing.result, sightings, filter.directory, machine)

/-! ## Cleaning up -/

/-- Removes the socket's file and the process id, as far as there are any. -/
def cleanUp (machine : Machine) (listener : Listener) (pidFile : Option Bytes) : Machine :=
  let machine := match listener.socketFile with
    | some path => Listener.removeFile machine path
    | none => machine
  match pidFile with
  | some path => PidFile.remove machine path
  | none => machine

/-- Lets go of the directory; a failure is worth an event and no more. -/
def letGo (client : Client κ) (directory : LdapDirectory) (server : κ) (machine : Machine) :
    κ × Machine :=
  let machine := machine.trying .leaveDirectory
  match directory.disconnect client server with
  | (.ok (), _, server, events) => (server, machine.noteAll events)
  | (.error error, _, server, events) =>
      (server, (machine.noteAll events).note (.own .error error.message))

/-! ## The run -/

def writePid (machine : Machine) : Option Bytes → Except Failure Unit × Machine
  | some path => PidFile.create machine path
  | none => (.ok (), machine)

/-- From the ready daemon to its end. -/
def runReady (client : Client κ) (settings : Settings) (script : Script) (listener : Listener)
    (directory : LdapDirectory) (server : κ) (machine : Machine) : Outcome κ :=
  let machine := machine.note (.own .info ("milter-alias ready on " ++ settings.socket.toText))
  let lookups : Lookups := ⟨settings.ldap.listQuery, settings.ldap.accountQuery⟩
  let (result, sightings, (directory, server), ended) :=
    serve client lookups script directory server machine
  let ended := (Listener.close ended listener).note (.own .info "Shutting down...")
  let (server, ended) := letGo client directory server ended
  ⟨.ended result, some machine.files, sightings, cleanUp ended listener settings.pidFile, server⟩

/-- From the process id on disk on.  Sockets are closed also where somebody breaks off. -/
def runWritten (client : Client κ) (dial : Dial) (settings : Settings) (script : Script)
    (listener : Listener) (server : κ) (machine : Machine) : Outcome κ :=
  let machine := machine.trying .reachDirectory
  match dial settings.ldap.connectSeconds settings.ldap.host machine with
  | .brokeOff words =>
      let events := (Ldap.activity settings.ldap.host).framed [] none
      .early (.brokeOff words) (Listener.close (machine.noteAll events) listener) server
  | .ended opening =>
      match LdapDirectory.connect client settings.ldap opening server with
      | (.error error, server, events) =>
          let machine := cleanUp (machine.noteAll events) listener settings.pidFile
          .failed ((Failure.of error.message).during "Unable to reach the directory")
            (Listener.close machine listener) server
      | (.ok directory, server, events) =>
          runReady client settings script listener directory server (machine.noteAll events)

/-- From the bound socket on. -/
def runBound (client : Client κ) (dial : Dial) (settings : Settings) (script : Script)
    (listener : Listener) (server : κ) (machine : Machine) : Outcome κ :=
  match writePid machine settings.pidFile with
  | (.error failure, machine) =>
      .failed failure (Listener.close (cleanUp machine listener none) listener) server
  | (.ok (), machine) => runWritten client dial settings script listener server machine

/-- The daemon's life up to the word on how it went. -/
def live (client : Client κ) (dial : Dial) (settings : Settings) (script : Script)
    (server : κ) (machine : Machine) : Outcome κ :=
  match Listener.bind machine settings.socket with
  | (.error failure, machine) => .failed failure machine server
  | (.ok listener, machine) =>
      runBound client dial settings script listener server machine

/-- The machine with the word on how it went: a failure is the last event. -/
def lastWord (result : Upshot (Except Failure Unit)) (machine : Machine) : Machine :=
  match result with
  | .ended (.error failure) => machine.note (.failed failure.message)
  | _ => machine

/-- The whole life of the daemon. -/
def run (client : Client κ) (dial : Dial) (settings : Settings) (script : Script)
    (server : κ) (machine : Machine) : Outcome κ :=
  let outcome := live client dial settings script server machine
  { outcome with machine := lastWord outcome.result outcome.machine }

end Daemon

end ListExpansion
