/-
# ListExpansion.Config.File -- finding and reading the configuration

The file that the command line names is taken, else the one that the environment
names, else the first of the usual places where there is something.  A named file
that is missing is an error, and no other place is looked at then.
-/
import ListExpansion.Config.Settings
import ListExpansion.Host.FileSystem

namespace ListExpansion

set_option autoImplicit false

/-- What can be told about files without changing any. -/
structure FileView where
  present : Bytes → Bool
  read : Bytes → Except IoError Bytes

/-- A path that leads nowhere, for whatever reason, counts as missing. -/
def FileSystem.view (files : FileSystem) : FileView where
  present path := (files.find path).isOk
  read := files.read

/-- What was seen of some files; nothing is known of others. -/
def FileView.ofList (seen : List (Bytes × Except IoError Bytes)) : FileView where
  present path := (seen.lookup path).isSome
  read path := (seen.lookup path).getD (.error .notFound)

namespace ConfigFile

/-- The variable of the environment that names the file. -/
def environmentName : String := "MILTER_ALIAS_CONFIG"

/-- Where the file usually is, best first. -/
def usualPlaces : List String :=
  ["./milter-alias.config.ron", "/etc/milter-alias/milter-alias.config.ron"]

/-- Why there is no file to read. -/
inductive Missing where
  | named (path : Bytes)
  | fromEnvironment (path : Bytes)
  | everywhere
  deriving DecidableEq, Repr

def Missing.message : Missing → String
  | .named path => "Configuration file " ++ Utf8.lossy path ++ " does not exist"
  | .fromEnvironment path =>
      environmentName ++ " points to non-existent file: " ++ Utf8.lossy path
  | .everywhere =>
      "No configuration file found. Tried:\n  - --config\n  - " ++ environmentName ++
        " environment variable" ++ String.join (usualPlaces.map fun place => "\n  - " ++ place)

/-- The places to look at, best first, and what to say if nothing is at any. -/
def places (explicit environment : Option Bytes) : List Bytes × Missing :=
  match explicit, environment with
  | some path, _ => ([path], .named path)
  | none, some path => ([path], .fromEnvironment path)
  | none, none => (usualPlaces.map Bytes.ofText, .everywhere)

/-- The file to read. -/
def locate (present : Bytes → Bool) (explicit environment : Option Bytes) :
    Except Missing Bytes :=
  let (candidates, missing) := places explicit environment
  match candidates.find? present with
  | some path => .ok path
  | none => .error missing

end ConfigFile

/-- The settings in the file at `path`.  Nothing is validated yet. -/
def Settings.load (view : FileView) (path : Bytes) : Except ConfigError Settings :=
  match view.read path with
  | .error error => .error (.unreadable path error.message)
  | .ok content =>
      match Utf8.decode? content with
      | none => .error (.unreadable path IoError.notText.message)
      | some text =>
          match Settings.parse? text with
          | none => .error (.unparsable path)
          | some settings => .ok settings

end ListExpansion
