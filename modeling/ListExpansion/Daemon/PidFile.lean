/-
# ListExpansion.Daemon.PidFile -- the process id on disk

The file holds the process id and a line feed for as long as the daemon serves.
-/
import ListExpansion.Daemon.Failure
import ListExpansion.Host.Machine
import ListExpansion.Text.Utf8

namespace ListExpansion.PidFile

set_option autoImplicit false

/-- What the file holds. -/
def content (processId : Nat) : Bytes := Bytes.ofText (toString processId ++ "\n")

/-- Writes the file, in place of whatever it held. -/
def create (machine : Machine) (path : Bytes) : Except Failure Unit × Machine :=
  let machine := machine.trying .writePidFile
  match machine.attempt .writePidFile (machine.files.write path (content machine.processId)) with
  | .ok files =>
      (.ok (), { machine with files }.note (.own .debug ("Wrote PID file " ++ Utf8.lossy path)))
  | .error error =>
      (.error ((Failure.of error.message).during ("Unable to write PID file " ++ Utf8.lossy path)),
        machine)

/-- Removes the file. -/
def remove (machine : Machine) (path : Bytes) : Machine :=
  machine.discard .removePidFile "PID file" path

end ListExpansion.PidFile
