/-
# ListExpansion.Daemon.Listener -- taking and giving up the milter's socket

Before a Unix socket is bound its directory is made, if it is missing, and a
socket that a previous run left behind is removed.  Nothing but a socket is ever
removed, and none that accepts a connection.

Removing the socket's file at the end is no failure, whatever comes of it; only a
file that is gone already is not worth an event.
-/
import ListExpansion.Config.Socket
import ListExpansion.Daemon.Failure
import ListExpansion.Host.Machine

namespace ListExpansion

set_option autoImplicit false

/-- A socket that is listened on. -/
inductive Listener where
  | unix (path : Bytes) (endpoint : Nat)
  | tcp (port : IpAddress × Nat)
  deriving DecidableEq, Repr

namespace Listener

/-- Makes the socket's directory if it is missing.  What was made of it stays in any case. -/
def ensureDirectory (machine : Machine) (directory : Bytes) : Except Failure Unit × Machine :=
  match machine.files.exists? directory with
  | .error error => (.error (.of error.message), machine)
  | .ok true => (.ok (), machine)
  | .ok false =>
      match machine.files.makeTree machine.umask directory with
      | (.error error, files) =>
          (.error ((Failure.of error.message).during
            ("Unable to create socket directory " ++ Utf8.lossy directory)), { machine with files })
      | (.ok (), files) =>
          (.ok (), { machine with files }.note
            (.own .info ("Created socket directory " ++ Utf8.lossy directory)))

/-- Clears the way for a socket: removes one that nobody answers on. -/
def clearPath (machine : Machine) (path : Bytes) : Except Failure Unit × Machine :=
  match machine.files.inspect path with
  | .error _ => (.ok (), machine)
  | .ok (.socket _) =>
      match machine.connect path with
      | .ok _ =>
          (.error (.of ("Socket already in use by running instance: " ++ Utf8.lossy path)), machine)
      | .error _ =>
          let machine := machine.note
            (.own .info ("Removing stale socket file " ++ Utf8.lossy path))
          match machine.files.remove path with
          | .ok files => (.ok (), { machine with files })
          | .error error =>
              (.error ((Failure.of error.message).during
                ("Unable to remove stale socket " ++ Utf8.lossy path)), machine)
  | .ok _ => (.error (.of (Utf8.lossy path ++ " exists and is not a socket")), machine)

/-- Prepares `path` for binding. -/
def prepare (machine : Machine) (path : Bytes) : Except Failure Unit × Machine :=
  match (Path.parent? path).filter fun directory => !directory.isEmpty with
  | none => clearPath machine path
  | some directory =>
      match ensureDirectory machine directory with
      | (.error failure, machine) => (.error failure, machine)
      | (.ok (), machine) => clearPath machine path

/-- Listens on a Unix socket. -/
def bindUnix (machine : Machine) (path : Bytes) : Except Failure Listener × Machine :=
  match prepare machine path with
  | (.error failure, machine) => (.error failure, machine)
  | (.ok (), machine) =>
      match machine.attempt .bind (machine.bindSocket path none) with
      | .ok (endpoint, machine) => (.ok (.unix path endpoint), machine)
      | .error error =>
          (.error ((Failure.of error.message).during ("Unable to bind " ++ Utf8.lossy path)), machine)

/-- Listens on a port. -/
def bindTcp (machine : Machine) (host : String) (port : Nat) : Except Failure Listener × Machine :=
  match machine.attempt .bind (machine.bindPort host port) with
  | .ok (taken, machine) => (.ok (.tcp taken), machine)
  | .error error =>
      (.error ((Failure.of error.message).during
        ("Unable to bind " ++ (Socket.inet host port).toText)), machine)

/-- Listens on a socket of either kind. -/
def take (machine : Machine) (socket : Socket) : Except Failure Listener × Machine :=
  match socket with
  | .unix path => bindUnix machine path
  | .inet host port => bindTcp machine host port

/-- Listens on `socket`, which is an activity and noted as one. -/
def bind (machine : Machine) (socket : Socket) : Except Failure Listener × Machine :=
  let activity : Activity := ⟨.trace, "socket", socket.toText⟩
  let framed (after : Machine) (events : List Event) (failure : Option String) : Machine :=
    { after with log := machine.log ++ activity.framed (after.log ++ events) failure }
  match take { machine.trying .bind with log := [] } socket with
  | (.error failure, after) => (.error failure, framed after [] (some failure.message))
  | (.ok listener, after) =>
      (.ok listener, framed after [.own .info ("Listening on " ++ socket.toText)] none)

/-- The file to remove in the end. -/
def socketFile : Listener → Option Bytes
  | .unix path _ => some path
  | .tcp _ => none

/-- Stops listening.  A socket's file stays. -/
def close (machine : Machine) : Listener → Machine
  | .unix _ endpoint => machine.release endpoint
  | .tcp port => machine.releasePort port

/-- Removes the socket's file. -/
def removeFile (machine : Machine) (path : Bytes) : Machine :=
  machine.discard .removeSocket "socket file" path

end Listener

end ListExpansion
