/-
# ListExpansion.Host.Disturbance -- what others do to a machine's files

Between two steps of the daemon anybody may make, change and remove files.  A
disturbance that is not possible changes nothing.
-/
import ListExpansion.Host.Machine

namespace ListExpansion

set_option autoImplicit false

inductive Disturbance where
  /-- Makes a directory with its ancestors, perhaps with a mode of its own. -/
  | makeDirectory (path : Bytes) (mode : Option Nat)
  | write (path content : Bytes)
  /-- Removes what is there and all below it. -/
  | remove (path : Bytes)
  | link (path target : Bytes)
  /-- Leaves a socket behind that nobody is bound to. -/
  | staleSocket (path : Bytes)
  /-- Listens at the path. -/
  | listener (path : Bytes)
  /-- Binds a socket that takes datagrams and refuses connections. -/
  | datagramSocket (path : Bytes)
  deriving DecidableEq, Repr

namespace Machine

/-- The machine with other files, if they could be had. -/
def withFiles (machine : Machine) : Except IoError FileSystem → Machine
  | .ok files => { machine with files }
  | .error _ => machine

/-- The machine with a socket at `path`, if it could be bound. -/
def withSocket (machine : Machine) (path : Bytes) (answer : Option IoError) : Machine :=
  match machine.bindSocket path answer with
  | .ok (_, machine) => machine
  | .error _ => machine

def disturbed (machine : Machine) : Disturbance → Machine
  | .makeDirectory path mode =>
      let machine := { machine with files := (machine.files.makeTree machine.umask path).2 }
      match mode with
      | some mode => { machine with files := machine.files.changeMode path mode }
      | none => machine
  | .write path content => machine.withFiles (machine.files.write path content)
  | .remove path => { machine with files := machine.files.removeTree path }
  | .link path target => { machine with files := machine.files.makeLink path target }
  | .staleSocket path =>
      match machine.bindSocket path none with
      | .ok (endpoint, machine) => machine.release endpoint
      | .error _ => machine
  | .listener path => machine.withSocket path none
  | .datagramSocket path => machine.withSocket path (some .wrongSocketType)

end Machine

end ListExpansion
