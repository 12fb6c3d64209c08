/-
# ListExpansion.Main -- the program at the command line

The configuration is found, read and checked for real.  The daemon needs sockets,
and there are none here; the program then reports that it cannot listen.
-/
import ListExpansion.Program

set_option autoImplicit false

namespace ListExpansion

/-- An error of a file that could not be read. -/
def errorOfFile : IO.Error → IoError
  | .noFileOrDirectory _ _ _ => .notFound
  | .permissionDenied _ _ _ => .accessDenied
  | .inappropriateType _ _ _ => .isADirectory
  | error => .other (toString error)

/-- What is at `path`; `none` if nothing is. -/
def lookAt (path : Bytes) : IO (Option (Bytes × Except IoError Bytes)) := do
  match Utf8.decode? path with
  | none => return none
  | some name =>
      try
        let content ← IO.FS.readBinFile name
        return some (path, .ok content.toList)
      catch error =>
        match errorOfFile error with
        | .notFound => return none
        | error => return some (path, .error error)

/-- A value of the environment. -/
def environmentValue (name : String) : IO (Option Bytes) := do
  return (← IO.getEnv name).map Bytes.ofText

/-- How the program was started. -/
def invocationOf (arguments : List String) : IO Program.Invocation := do
  return ⟨arguments.map Bytes.ofText, ← environmentValue ConfigFile.environmentName,
    ← environmentValue LogLevel.environmentName⟩

/-- The places where the configuration may be. -/
def placesFor (invocation : Program.Invocation) : List Bytes :=
  match CommandLine.parse invocation.arguments with
  | .ok overrides => (ConfigFile.places overrides.configFile invocation.configFile).1
  | .error _ => []

/-- Runs the program as far as it goes and tells its exit code. -/
def runProgram (arguments : List String) : IO UInt32 := do
  let invocation ← invocationOf arguments
  let seen ← (placesFor invocation).filterMapM lookAt
  let out ← IO.getStdout
  let report ←
    match Program.prepare (.ofList seen) invocation with
    | .error halt => pure halt.report
    | .ok ready =>
        if ready.event.passes ready.level.threshold then
          out.putStrLn (ready.event.line ready.level.threshold fun id => toString id.serial)
        pure ready.unserved
  out.putStr report.output
  (← IO.getStderr).putStr report.complaints
  return UInt32.ofNat report.exitCode

end ListExpansion

def main (arguments : List String) : IO UInt32 := ListExpansion.runProgram arguments
