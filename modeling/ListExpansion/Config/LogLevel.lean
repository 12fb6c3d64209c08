/-
# ListExpansion.Config.LogLevel -- how much to log

The levels are those of syslog, and one more for tracing.  Events have fewer
severities than there are levels, so several levels share a threshold.

The level in force is the configured one, else the one the environment names, else
`warning`.  A name in the environment that is no level is reported and ignored.
-/
import ListExpansion.Config.Error
import ListExpansion.Log
import ListExpansion.Text.Blank

namespace ListExpansion

set_option autoImplicit false

/-- Gravest first. -/
inductive LogLevel where
  | emergency
  | alert
  | critical
  | error
  | warning
  | notice
  | info
  | debug
  | trace
  deriving DecidableEq, Repr

namespace LogLevel

def name : LogLevel → String
  | .emergency => "emergency"
  | .alert => "alert"
  | .critical => "critical"
  | .error => "error"
  | .warning => "warning"
  | .notice => "notice"
  | .info => "info"
  | .debug => "debug"
  | .trace => "trace"

/-- The name of the level's constructor, as the log shows it. -/
def describe : LogLevel → String
  | .emergency => "Emergency"
  | .alert => "Alert"
  | .critical => "Critical"
  | .error => "Error"
  | .warning => "Warning"
  | .notice => "Notice"
  | .info => "Info"
  | .debug => "Debug"
  | .trace => "Trace"

/-- The place of a level among all levels. -/
def rank : LogLevel → Nat
  | .emergency => 0
  | .alert => 1
  | .critical => 2
  | .error => 3
  | .warning => 4
  | .notice => 5
  | .info => 6
  | .debug => 7
  | .trace => 8

/-- The least grave events that are still written at this level. -/
def threshold : LogLevel → Severity
  | .emergency | .alert | .critical | .error => .error
  | .warning => .warn
  | .notice | .info => .info
  | .debug => .debug
  | .trace => .trace

/-- The level when nothing sets another. -/
def default : LogLevel := .warning

/-- Every accepted spelling, in lower case. -/
def spellings : List (String × LogLevel) :=
  [("emergency", .emergency), ("emerg", .emergency), ("0", .emergency),
   ("alert", .alert), ("1", .alert),
   ("critical", .critical), ("crit", .critical), ("2", .critical),
   ("error", .error), ("err", .error), ("3", .error),
   ("warning", .warning), ("warn", .warning), ("4", .warning),
   ("notice", .notice), ("5", .notice),
   ("info", .info), ("6", .info),
   ("debug", .debug), ("7", .debug),
   ("trace", .trace)]

def parse? (text : String) : Option LogLevel :=
  spellings.lookup (Text.lowerAscii (Text.trim text))

/-- Reads a level; the error carries the text as it was given. -/
def parse (text : String) : Except ConfigError LogLevel :=
  match parse? text with
  | some level => .ok level
  | none => .error (.logLevel text)

/-- The variable of the environment that names a level. -/
def environmentName : String := "LOG_LEVEL"

/-- The level in force, and the complaint about the environment if there is one. -/
def effective (configured : Option LogLevel) (environment : Option Bytes) :
    LogLevel × Option String :=
  match configured with
  | some level => (level, none)
  | none =>
      match environment.bind Utf8.decode? with
      | none => (default, none)
      | some text =>
          match parse? text with
          | some level => (level, none)
          | none =>
              (default, some s!"Invalid log level specified {text}, defaulting to {default.name}")

end LogLevel

end ListExpansion
