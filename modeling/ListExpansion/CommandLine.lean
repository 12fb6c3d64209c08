/-
# ListExpansion.CommandLine -- what the arguments ask for

Four options override the settings and two more ask for help or the version.  An
option's value is the rest of its argument or the next argument.

Arguments are taken from the left and the first problem decides.  The value of an
option that stands in an argument of its own is looked at when the next option
comes, or at the end; an argument that nothing is known about is refused before.
-/
import ListExpansion.Config.LogLevel
import ListExpansion.Config.Socket

namespace ListExpansion.CommandLine

set_option autoImplicit false

/-- What the command line sets. -/
structure Overrides where
  configFile : Option Bytes
  logLevel : Option LogLevel
  pidFile : Option Bytes
  socket : Option Socket
  deriving DecidableEq

def Overrides.none : Overrides := ⟨.none, .none, .none, .none⟩

inductive UsageError where
  | unknownArgument
  /-- No value, or an empty one where a path is due. -/
  | missingValue
  | unusableValue
  | repeatedOption
  /-- A value for an option that takes none. -/
  | unwantedValue
  | valueNotText
  deriving DecidableEq, Repr

def UsageError.message : UsageError → String
  | .unknownArgument => "unexpected argument"
  | .missingValue => "a value is required"
  | .unusableValue => "invalid value"
  | .repeatedOption => "an option was given more than once"
  | .unwantedValue => "unexpected value"
  | .valueNotText => "a value is not valid UTF-8"

/-- Why the arguments give no overrides. -/
inductive Ending where
  | help
  | version
  | misuse (error : UsageError)
  deriving DecidableEq, Repr

/-- An option that takes a value. -/
inductive Setting where
  | configFile
  | logLevel
  | pidFile
  | socket
  deriving DecidableEq, Repr

inductive Flag where
  | takesValue (setting : Setting)
  | help
  | version
  deriving DecidableEq, Repr

/-- The option with this name after two dashes. -/
def Flag.ofName? (name : Bytes) : Option Flag :=
  match Utf8.decode? name with
  | some "config" => some (.takesValue .configFile)
  | some "log-level" => some (.takesValue .logLevel)
  | some "pid-file" => some (.takesValue .pidFile)
  | some "socket" => some (.takesValue .socket)
  | some "help" => some .help
  | some "version" => some .version
  | _ => none

/-- The option with this letter after one dash. -/
def Flag.ofLetter? (letter : UInt8) : Option Flag :=
  if letter = 0x63 then some (.takesValue .configFile)
  else if letter = 0x6C then some (.takesValue .logLevel)
  else if letter = 0x70 then some (.takesValue .pidFile)
  else if letter = 0x73 then some (.takesValue .socket)
  else if letter = 0x68 then some .help
  else if letter = 0x56 then some .version
  else none

/-- An argument by its form alone. -/
inductive Argument where
  /-- `--`: no option follows. -/
  | separator
  | option (flag : Option Flag) (value : Option Bytes)
  | free (text : Bytes)

/-- The octet of `=`. -/
def equalsSign : UInt8 := 0x3D

/-- A value behind a letter; it may have an equals sign in front. -/
def attachedValue : Bytes → Option Bytes
  | [] => none
  | b :: rest => if b = equalsSign then some rest else some (b :: rest)

/-- An option by its letter.  What stands behind the letter of an option without a
value is not looked at. -/
def Argument.ofLetter (letter : UInt8) (rest : Bytes) : Argument :=
  match Flag.ofLetter? letter with
  | some (.takesValue setting) => .option (some (.takesValue setting)) (attachedValue rest)
  | flag => .option flag none

/-- A single dash is no option. -/
def Argument.of (argument : Bytes) : Argument :=
  match Bytes.dropLeading? [0x2D, 0x2D] argument with
  | some [] => .separator
  | some long =>
      match Bytes.cutFirst equalsSign long with
      | some (name, value) => .option (Flag.ofName? name) (some value)
      | none => .option (Flag.ofName? long) none
  | none =>
      match argument with
      | 0x2D :: letter :: rest => .ofLetter letter rest
      | _ => .free argument

/-- The value of an option that takes a path. -/
def readPath (value : Bytes) : Except UsageError Bytes :=
  if value.isEmpty then .error .missingValue else .ok value

/-- The value of an option that takes text. -/
def readText {α : Type} (parse : String → Except ConfigError α) (value : Bytes) :
    Except UsageError α :=
  match Utf8.decode? value with
  | none => .error .valueNotText
  | some text =>
      match parse text with
      | .ok result => .ok result
      | .error _ => .error .unusableValue

/-- Sets what is still unset. -/
def setOnce {α : Type} (current : Option α) (read : Except UsageError α) :
    Except UsageError (Option α) :=
  match current with
  | some _ => .error .repeatedOption
  | none => read.map some

namespace Overrides

/-- The overrides with the value of one more option.  Repetition comes before a bad
value. -/
def set (overrides : Overrides) (setting : Setting) (value : Bytes) :
    Except UsageError Overrides :=
  match setting with
  | .configFile =>
      (setOnce overrides.configFile (readPath value)).map fun v => { overrides with configFile := v }
  | .logLevel =>
      (setOnce overrides.logLevel (readText LogLevel.parse value)).map fun v =>
        { overrides with logLevel := v }
  | .pidFile =>
      (setOnce overrides.pidFile (readPath value)).map fun v => { overrides with pidFile := v }
  | .socket =>
      (setOnce overrides.socket (readText Socket.parse value)).map fun v =>
        { overrides with socket := v }

end Overrides

/-- The overrides so far, and the option whose value is not yet taken in. -/
structure Progress where
  overrides : Overrides
  pending : Option (Setting × Option Bytes)

namespace Progress

def start : Progress := ⟨.none, none⟩

/-- Takes in the value of the last option. -/
def settle (progress : Progress) : Except UsageError Overrides :=
  match progress.pending with
  | none => .ok progress.overrides
  | some (_, none) => .error .missingValue
  | some (setting, some value) => progress.overrides.set setting value

/-- One argument; an unknown one is refused at once. -/
def step (progress : Progress) : Argument → Except Ending Progress
  | .separator => .ok progress
  | .option none _ => .error (.misuse .unknownArgument)
  | .option (some (.takesValue setting)) value =>
      match progress.settle with
      | .error error => .error (.misuse error)
      | .ok overrides =>
          match value with
          | none => .ok ⟨overrides, some (setting, none)⟩
          | some value =>
              match overrides.set setting value with
              | .error error => .error (.misuse error)
              | .ok overrides => .ok ⟨overrides, none⟩
  | .option (some .help) (some _) | .option (some .version) (some _) =>
      .error (.misuse .unwantedValue)
  | .option (some .help) none =>
      match progress.settle with
      | .error error => .error (.misuse error)
      | .ok _ => .error .help
  | .option (some .version) none =>
      match progress.settle with
      | .error error => .error (.misuse error)
      | .ok _ => .error .version
  | .free text =>
      match progress.pending with
      | some (setting, none) => .ok ⟨progress.overrides, some (setting, some text)⟩
      | _ => .error (.misuse .unknownArgument)

/-- What is left when no argument is. -/
def finish (progress : Progress) : Except Ending Overrides :=
  match progress.settle with
  | .ok overrides => .ok overrides
  | .error error => .error (.misuse error)

/-- All arguments in turn.  Nothing may follow a separator. -/
def run (progress : Progress) : List Bytes → Except Ending Overrides
  | [] => progress.finish
  | argument :: rest =>
      match Argument.of argument with
      | .separator => if rest.isEmpty then progress.finish else .error (.misuse .unknownArgument)
      | form =>
          match progress.step form with
          | .ok progress => progress.run rest
          | .error ending => .error ending

end Progress

/-- Reads the arguments, the program's own name not among them. -/
def parse (arguments : List Bytes) : Except Ending Overrides :=
  Progress.start.run arguments

/-- The answer to a request for help. -/
def helpText : String :=
  "A milter that expands mailing lists from an LDAP directory\n\n" ++
  "Usage: milter-alias [OPTIONS]\n\n" ++
  "Options:\n" ++
  "  -c, --config <FILE>      Configuration file\n" ++
  "  -l, --log-level <LEVEL>  Log level, a syslog severity name or number\n" ++
  "  -p, --pid-file <FILE>    Where to write the process id\n" ++
  "  -s, --socket <SOCKET>    Milter socket, e.g. " ++
  "unix:/run/milter-alias/milter-alias.sock or inet:8890@127.0.0.1\n" ++
  "  -h, --help               Print help\n" ++
  "  -V, --version            Print version\n"

def versionText : String := "milter-alias 0.1.0\n"

end ListExpansion.CommandLine
