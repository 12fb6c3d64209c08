/-
# ListExpansion.Host.Machine -- the host as the daemon sees it

Besides its files a machine has sockets, some of which somebody is bound to, ports
that are in use, and a log.  It may refuse an operation for reasons of its own
(`Machine.faults`), with any text but never by claiming that nothing is there, and
whether a port can be had is for the network to say (`Machine.listen`).  What the
daemon tried is on record (`Machine.tried`), whatever came of it.
-/
import ListExpansion.Host.FileSystem
import ListExpansion.Host.Loopback
import ListExpansion.Log
import ListExpansion.Text.Utf8

namespace ListExpansion

set_option autoImplicit false

/-- The operations of the daemon that may fail.  A machine may refuse them; but what comes of
serving, and of reaching and leaving the directory, is up to others. -/
inductive Operation where
  | bind
  | writePidFile
  | reachDirectory
  | leaveDirectory
  | serve
  | removeSocket
  | removePidFile
  deriving DecidableEq, Repr

structure Machine where
  files : FileSystem
  /-- The sockets that somebody is bound to, each with the error that meets whoever
  connects; without one, connections are accepted. -/
  bound : List (Nat × Option IoError)
  /-- The number of the next socket. -/
  fresh : Nat
  /-- Names of sockets that have no file, and the sockets they stand for. -/
  abstractNames : List (Bytes × Nat)
  /-- Addresses and ports that are listened on. -/
  ports : List (IpAddress × Nat)
  /-- What comes of listening on a port of a host, where those that are given are listened on
  already.  It is the network that decides. -/
  listen : List (IpAddress × Nat) → (host : String) → (port : Nat) →
    Except IoError (IpAddress × Nat)
  processId : Nat
  faults : Operation → Option String
  /-- The operations that were tried, oldest first. -/
  tried : List Operation
  /-- Oldest first. -/
  log : List Event
  /-- The mode bits that nothing we make gets. -/
  umask : Nat := 0o022

namespace Machine

/-- A machine with these files and nothing else going on, in no network. -/
def new (files : FileSystem) (processId : Nat) : Machine :=
  ⟨files, [], 0, [], [], Loopback.listen, processId, fun _ => none, [], [], 0o022⟩

def note (machine : Machine) (event : Event) : Machine :=
  { machine with log := machine.log ++ [event] }

def noteAll (machine : Machine) (events : List Event) : Machine :=
  { machine with log := machine.log ++ events }

/-- The machine with `operation` on record. -/
def trying (machine : Machine) (operation : Operation) : Machine :=
  { machine with tried := machine.tried ++ [operation] }

/-- An operation that may be refused. -/
def attempt {α : Type} (machine : Machine) (operation : Operation) (outcome : Except IoError α) :
    Except IoError α :=
  match machine.faults operation with
  | some text => .error (.other text)
  | none => outcome

/-- Removes the file at `path`, which messages call `what`.  That it is gone already is fine,
and nothing that comes of it is a failure. -/
def discard (machine : Machine) (operation : Operation) (what : String) (path : Bytes) : Machine :=
  let machine := machine.trying operation
  match machine.attempt operation (machine.files.remove path) with
  | .ok files =>
      { machine with files }.note (.own .debug ("Removed " ++ what ++ " " ++ Utf8.lossy path))
  | .error .notFound => machine
  | .error error =>
      machine.note (.own .error
        ("Unable to remove " ++ what ++ " " ++ Utf8.lossy path ++ ": " ++ error.message))

/-! ## Socket files -/

/-- The first length, in octets, that a socket's path must not have. -/
def socketPathLimit : Nat := 108

/-- Whether a path can name a socket. -/
def checkSocketPath (path : Bytes) : Except IoError Unit :=
  if path.contains 0 then .error .nulInSocketPath
  else if path.length ≥ socketPathLimit then .error .socketPathTooLong
  else .ok ()

/-- What meets whoever connects to a socket. -/
def answer (machine : Machine) (endpoint : Nat) : Except IoError Nat :=
  match machine.bound.lookup endpoint with
  | none => .error .connectionRefused
  | some none => .ok endpoint
  | some (some error) => .error error

/-- Connects to a socket whose name begins with a NUL. -/
def connectAbstract (machine : Machine) (name : Bytes) : Except IoError Nat :=
  if name.length ≥ socketPathLimit then .error .abstractNameTooLong
  else if name.isEmpty then .error .invalidArgument
  else
    match machine.abstractNames.lookup name with
    | some endpoint => machine.answer endpoint
    | none => .error .connectionRefused

/-- Connects to the socket at `path` and tells which one it is. -/
def connect (machine : Machine) (path : Bytes) : Except IoError Nat :=
  match path with
  | 0 :: name => machine.connectAbstract name
  | _ =>
      match checkSocketPath path with
      | .error error => .error error
      | .ok () =>
          match machine.files.find path with
          | .error error => .error error
          | .ok (_, .socket endpoint) => machine.answer endpoint
          | .ok _ => .error .connectionRefused

/-- A new socket that somebody is bound to. -/
def withEndpoint (machine : Machine) (answer : Option IoError) : Nat × Machine :=
  (machine.fresh,
    { machine with bound := (machine.fresh, answer) :: machine.bound, fresh := machine.fresh + 1 })

/-- Binds a socket whose name begins with a NUL: it has no file. -/
def bindAbstract (machine : Machine) (name : Bytes) : Except IoError (Nat × Machine) :=
  if name.length ≥ socketPathLimit then .error .abstractNameTooLong
  else if (machine.abstractNames.lookup name).isSome then .error .addressInUse
  else
    let (endpoint, machine) := machine.withEndpoint none
    .ok (endpoint, { machine with abstractNames := (name, endpoint) :: machine.abstractNames })

/-- Binds a socket at `path`.  The empty path stands for any free name. -/
def bindSocket (machine : Machine) (path : Bytes) (answer : Option IoError) :
    Except IoError (Nat × Machine) :=
  match path with
  | [] => .ok (machine.withEndpoint answer)
  | 0 :: name => machine.bindAbstract name
  | _ =>
      match checkSocketPath path with
      | .error error => .error error
      | .ok () =>
          match machine.files.makeSocket path machine.fresh with
          | .error error => .error error
          | .ok files => .ok ({ machine with files }.withEndpoint answer)

/-- Nobody is bound to the socket any more; its file stays. -/
def release (machine : Machine) (endpoint : Nat) : Machine :=
  { machine with
    bound := machine.bound.filter fun (other, _) => other ≠ endpoint
    abstractNames := machine.abstractNames.filter fun (_, other) => other ≠ endpoint }

/-! ## Ports -/

/-- Listens on a port of a host, if the network lets it. -/
def bindPort (machine : Machine) (host : String) (port : Nat) :
    Except IoError ((IpAddress × Nat) × Machine) :=
  match machine.listen machine.ports host port with
  | .error error => .error error
  | .ok taken => .ok (taken, { machine with ports := taken :: machine.ports })

/-- Stops listening on a port. -/
def releasePort (machine : Machine) (port : IpAddress × Nat) : Machine :=
  { machine with ports := machine.ports.erase port }

end Machine

end ListExpansion
