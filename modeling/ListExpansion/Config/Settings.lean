/-
# ListExpansion.Config.Settings -- all settings of the daemon

Where it listens, where it writes its process id, how much it logs and how it
reaches the directory.  Only the last has to be configured.

Settings are read from a document (`Settings.parse?`), overridden by the command
line (`Settings.overriddenBy`) and then checked (`Settings.validate`).
-/
import ListExpansion.CommandLine
import ListExpansion.Config.Ldap
import ListExpansion.Document.Reader

namespace ListExpansion

set_option autoImplicit false

open CommandLine (Overrides)

structure Settings where
  socket : Socket
  /-- Where to write the process id; nowhere without one. -/
  pidFile : Option Bytes
  logLevel : Option LogLevel
  ldap : LdapConfig
  deriving DecidableEq

namespace Settings

/-- The process id is written here unless the settings say otherwise. -/
def defaultPidFile : Bytes := Bytes.ofText "/run/milter-alias/milter-alias.pid"

/-- The settings as the log shows them. -/
def describe (settings : Settings) : String :=
  Text.record "Settings"
    [("socket", settings.socket.describe),
     ("pid_file", Text.option (settings.pidFile.map Text.quoteOctets)),
     ("log", Text.record "LogConfig"
       [("level", Text.option (settings.logLevel.map LogLevel.describe))]),
     ("ldap", settings.ldap.describe)]

/-- What the command line sets takes the place of what the document sets. -/
def overriddenBy (settings : Settings) (overrides : Overrides) : Settings where
  socket := overrides.socket.getD settings.socket
  pidFile := overrides.pidFile.or settings.pidFile
  logLevel := overrides.logLevel.or settings.logLevel
  ldap := settings.ldap

/-- Whether the daemon can run with these settings. -/
def validate (settings : Settings) : Except ConfigError Unit :=
  if settings.pidFile = some [] then .error .emptyPidFile
  else settings.ldap.validate

/-! ## Fields and shapes -/

def socketField : Field := ⟨["socket"], 0, 4⟩

def pidFileField : Field := ⟨["pid_file", "pid"], 1, 4⟩

def logField : Field := ⟨["log"], 2, 4⟩

def ldapField : Field := ⟨["ldap"], 3, 4⟩

def levelField : Field := ⟨["level"], 0, 1⟩

def queryShape : Shape :=
  .record "QueryDefinition"
    [(Query.baseField.names, .text), (Query.filterField.names, .text),
     (Query.resultField.names, .text)]

def bindShape : Shape :=
  .record "Bind" [(Bind.dnField.names, .text), (Bind.passwordField.names, .text)]

def ldapShape : Shape :=
  .record "LdapConfig"
    [(LdapConfig.hostField.names, .text), (LdapConfig.bindField.names, .optional bindShape),
     (LdapConfig.connectField.names, .optional .seconds),
     (LdapConfig.searchField.names, .optional .seconds),
     (LdapConfig.listField.names, queryShape), (LdapConfig.accountField.names, queryShape)]

def logShape : Shape := .record "LogConfig" [(levelField.names, .optional .text)]

def shape : Shape :=
  .record "Settings"
    [(socketField.names, .text), (pidFileField.names, .optional .text),
     (logField.names, logShape), (ldapField.names, ldapShape)]

end Settings

/-! ## Reading -/

namespace Document

def text? : Document → Option String
  | .string value => some value
  | _ => none

def seconds? : Document → Option UInt64
  | .seconds value => some value
  | _ => none

def optional? : Document → Option (Option Document)
  | .absent => some none
  | .present value => some (some value)
  | _ => none

def record? : Document → Option (Given Document)
  | .record fields => some (.named fields)
  | _ => none

/-- Documents have their shape when they are read. -/
def reading : Reading Document where
  text? := text?
  seconds? := seconds?
  optional? := optional?
  record? := record?

end Document

namespace Settings

def readSocket (value : Document) : Option Socket :=
  match value.text? with
  | some text => (Socket.parse text).toOption
  | none => none

def readLevel (value : Document) : Option LogLevel :=
  match value.text? with
  | some text => LogLevel.parse? text
  | none => none

def readPath (value : Document) : Option Bytes := value.text?.map Bytes.ofText

def readLog (value : Document) : Option (Option LogLevel) := do
  let given ← value.record?
  given.defaulting levelField none (Document.reading.option readLevel)

def read (value : Document) : Option Settings := do
  let given ← value.record?
  let socket ← given.defaulting socketField Socket.default readSocket
  let pidFile ← given.defaulting pidFileField (some defaultPidFile)
    (Document.reading.option readPath)
  let logLevel ← given.defaulting logField none readLog
  let ldap ← given.required ldapField (LdapConfig.read Document.reading)
  return ⟨socket, pidFile, logLevel, ldap⟩

/-- The settings that a document holds. -/
def parse? (text : String) : Option Settings :=
  (Document.parse? shape text).bind read

end Settings

end ListExpansion
