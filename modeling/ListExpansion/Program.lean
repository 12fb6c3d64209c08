/-
# ListExpansion.Program -- from the arguments to the exit code

The program reads its arguments, finds its configuration, reads it and checks it.
All of this only looks (`Program.prepare`): whatever is wrong so far ends the
program before it has changed anything or spoken to anybody.  Then the daemon runs.

Only events that are grave enough for the level in force are written.
-/
import ListExpansion.Config.File
import ListExpansion.Daemon.Run

namespace ListExpansion

set_option autoImplicit false

/-- A configuration that cannot be read has a cause of its own. -/
def ConfigError.failure (error : ConfigError) : Failure :=
  match error with
  | .unreadable _ reason => ⟨error.message, [reason]⟩
  | _ => .of error.message

namespace Program

open Ldap (Client Dial)

/-- How the program was started. -/
structure Invocation where
  /-- Without the program's own name. -/
  arguments : List Bytes
  /-- The configuration file that the environment names. -/
  configFile : Option Bytes
  /-- The log level that the environment names. -/
  logLevel : Option Bytes

/-- Why the program ends before it has begun. -/
inductive Halt where
  | usage (ending : CommandLine.Ending)
  | failure (reason : Failure)

/-- All that is known before the daemon runs. -/
structure Ready where
  path : Bytes
  settings : Settings
  level : LogLevel
  /-- What is wrong with the environment's log level, if anything is. -/
  complaint : Option String

/-- Finds, reads and checks the configuration. -/
def prepare (view : FileView) (invocation : Invocation) : Except Halt Ready :=
  match CommandLine.parse invocation.arguments with
  | .error ending => .error (.usage ending)
  | .ok overrides =>
      match ConfigFile.locate view.present overrides.configFile invocation.configFile with
      | .error missing => .error (.failure (.of missing.message))
      | .ok path =>
          match Settings.load view path with
          | .error error => .error (.failure error.failure)
          | .ok loaded =>
              let settings := loaded.overriddenBy overrides
              match settings.validate with
              | .error error => .error (.failure error.failure)
              | .ok () =>
                  let (level, complaint) :=
                    LogLevel.effective settings.logLevel invocation.logLevel
                  .ok ⟨path, settings, level, complaint⟩

/-! ## What is seen of it -/

/-- What a program leaves for its caller, its log apart. -/
structure Report where
  exitCode : Nat
  output : String
  complaints : String
  deriving DecidableEq, Repr

/-- The report of a program that was asked for nothing but a text. -/
def Report.answering (text : String) : Report := ⟨0, text, ""⟩

/-- The report of a program that failed. -/
def Report.failed (failure : Failure) : Report := ⟨1, "", failure.report⟩

/-- The report of a program that was started the wrong way. -/
def Report.misused (error : CommandLine.UsageError) : Report :=
  ⟨2, "", "error: " ++ error.message ++ "\n\nFor more information, try '--help'.\n"⟩

def Halt.report : Halt → Report
  | .usage .help => .answering CommandLine.helpText
  | .usage .version => .answering CommandLine.versionText
  | .usage (.misuse error) => .misused error
  | .failure reason => .failed reason

/-- The exit code of a program in which somebody broke off. -/
def brokenOffCode : Nat := 101

/-- What is said about the environment comes first. -/
def Ready.report (ready : Ready) (result : Upshot (Except Failure Unit)) : Report :=
  let said := match ready.complaint with
    | some complaint => complaint ++ "\n"
    | none => ""
  match result with
  | .ended (.ok ()) => ⟨0, "", said⟩
  | .ended (.error failure) => ⟨1, "", said ++ failure.report⟩
  | .brokeOff words => ⟨brokenOffCode, "", said ++ words ++ "\n"⟩

/-- The first event of every daemon. -/
def Ready.event (ready : Ready) : Event :=
  .own .info ("Loaded " ++ Utf8.lossy ready.path ++ ": " ++ ready.settings.describe)

/-- What a ready program leaves where there are no sockets to listen on. -/
def Ready.unserved (ready : Ready) : Report :=
  ready.report (.ended (.error ((Failure.of IoError.notSupported.message).during
    ("Unable to bind " ++ ready.settings.socket.toText))))

/-! ## The whole program -/

variable {κ : Type}

/-- What became of the program, and of the world around it. -/
structure Outcome (κ : Type) where
  report : Report
  /-- The events that were written. -/
  written : List Event
  /-- What the log holds besides the first lines of events. -/
  overflow : String
  /-- The files when serving began, if it did. -/
  serving : Option FileSystem
  sightings : List Sighting
  machine : Machine
  server : κ

/-- Runs the program on a machine. -/
def run (client : Client κ) (dial : Dial) (invocation : Invocation) (script : Script)
    (server : κ) (machine : Machine) : Outcome κ :=
  match prepare machine.files.view invocation with
  | .error halt => ⟨halt.report, [], "", none, [], machine, server⟩
  | .ok ready =>
      let life := Daemon.run client dial ready.settings script server
        (machine.note ready.event)
      let threshold := ready.level.threshold
      let written := life.machine.log.filter (Event.passes threshold)
      let overflow := String.join (written.map (Event.overflow threshold fun id => toString id.serial))
      ⟨ready.report life.result, written, overflow, life.serving, life.sightings, life.machine,
        life.server⟩

end Program

end ListExpansion
