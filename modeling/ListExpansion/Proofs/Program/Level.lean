/-
# ListExpansion.Proofs.Program.Level -- the level that a program logs at

A level may be given on the command line, in the configuration file and in the environment, and
the first of these places that gives one decides (`InForce`).  A program that gets to run logs at
the level in force (`level_inForce`).

The places are not treated alike.  A value on the command line or in the file that spells no
level keeps the program from starting, whether it would have counted or not.  What is in the
environment never does, and changes nothing about a run but what is written of it
(`prepare_environment`).
-/
import ListExpansion.Proofs.CommandLine
import ListExpansion.Proofs.Config.Reading
import ListExpansion.Proofs.Program.Startup

namespace ListExpansion

set_option autoImplicit false

/-! ## The level in a configuration -/

/-- The document has a log level, and this is its text. -/
inductive Document.LevelText : Document → String → Prop
  | intro {fields logFields : List (String × Document)} {text : String}
      (log : ("log", .record logFields) ∈ fields)
      (level : ("level", .present (.string text)) ∈ logFields) : LevelText (.record fields) text

open Document (LevelText)
open LogLevel (Spelled SpelledBy Told)

namespace Settings

variable {document : Document} {settings : Settings} {level? : Option LogLevel}
  {logFields : List (String × Document)}

/-- An optional level is nothing or a text; no other document reads as one. -/
theorem option_readLevel {value : Document}
    (reads : Document.reading.option readLevel value = some level?) :
    (value = .absent ∧ level? = none) ∨
      ∃ text level, value = .present (.string text) ∧ level? = some level ∧ level.Spelled text := by
  cases value with
  | absent =>
      cases reads
      exact .inl ⟨rfl, rfl⟩
  | present inner =>
      cases inner with
      | string text =>
          simp only [Reading.option, Document.reading, Document.optional?, readLevel,
            Document.text?, Option.map_eq_some_iff] at reads
          obtain ⟨level, parses, rfl⟩ := reads
          exact .inr ⟨text, level, rfl, rfl, LogLevel.parse?_eq_some_iff.1 parses⟩
      | _ => cases reads
  | _ => cases reads

theorem told_readLog (reads : readLog (.record logFields) = some level?) :
    Told Spelled (fun text => ("level", .present (.string text)) ∈ logFields) level? := by
  have obtained : (Given.named logFields).defaulting levelField none
      (Document.reading.option readLevel) = some level? := reads
  obtain ⟨rfl, absent⟩ | ⟨value, read, only⟩ := Given.defaulting_named obtained
  · apply Told.nothing
    intro text
    exact absent "level" (List.mem_singleton.2 rfl) _
  · have only (other : Document) : ("level", other) ∈ logFields ↔ other = value := by
      simpa [levelField] using only other
    obtain ⟨rfl, rfl⟩ | ⟨text, level, rfl, rfl, spelled⟩ := option_readLevel read
    · apply Told.nothing
      intro text there
      cases (only _).1 there
    · apply Told.level spelled
      intro other
      rw [only]
      simp

example :
    (Document.parse? logShape "(level: Some(\"Info\"))").bind readLog = some (some .info) := by
  decide +kernel

/-- The level that was read of a document is the one that it gives. -/
theorem told_read (reads : read document = some settings) :
    Told Spelled (LevelText document) settings.logLevel := by
  cases document with
  | record fields =>
      simp only [read, Document.record?, Option.bind_eq_bind, Option.bind_some,
        Option.bind_eq_some_iff, Option.pure_def, Option.some.injEq] at reads
      obtain ⟨socket, -, pidFile, -, level?, obtained, ldap, -, rfl⟩ := reads
      obtain ⟨rfl, absent⟩ | ⟨value, read, only⟩ := Given.defaulting_named obtained
      · apply Told.nothing
        rintro text ⟨log, level⟩
        exact absent "log" (List.mem_singleton.2 rfl) _ log
      · have only (other : Document) : ("log", other) ∈ fields ↔ other = value := by
          simpa [logField] using only other
        cases value with
        | record logFields =>
            apply (told_readLog read).congr
            intro text
            constructor
            · intro level
              exact .intro ((only _).2 rfl) level
            · rintro ⟨log, level⟩
              cases (only _).1 log
              exact level
        | _ => cases read
  | _ => cases reads

end Settings

/-- The file at `path` has a log level, and this is its text. -/
inductive FileView.LevelText (view : FileView) (path : Bytes) (text : String) : Prop
  | intro {content : Bytes} {source : String} {document : Document}
      (reads : view.read path = .ok content) (decodes : Utf8.decode? content = some source)
      (parses : Document.parse? Settings.shape source = some document)
      (told : document.LevelText text)

section File

variable {view : FileView} {path : Bytes} {settings : Settings}

theorem Settings.Holds.told (holds : Settings.Holds view path settings) :
    Told Spelled (view.LevelText path) settings.logLevel := by
  obtain ⟨reads, decodes, parses⟩ := holds
  obtain ⟨document, shaped, read⟩ := Option.bind_eq_some_iff.1 parses
  apply (Settings.told_read read).congr
  intro text
  constructor
  · intro told
    exact .intro reads decodes shaped told
  · rintro ⟨reads', decodes', shaped', told⟩
    cases reads.symm.trans reads'
    cases decodes.symm.trans decodes'
    cases shaped.symm.trans shaped'
    exact told

/-- A file whose level cannot be read cannot be read. -/
theorem FileView.LevelText.spoiled {text : String} (told : view.LevelText path text)
    (none_spelled : ∀ level : LogLevel, ¬ level.Spelled text) :
    Settings.Spoiled view path (.unparsable path) := by
  obtain ⟨reads, decodes, shaped, given⟩ := told
  refine .unparsable reads decodes ?_
  rw [Settings.parse?, shaped, Option.bind_some]
  cases read : Settings.read _ with
  | none => rfl
  | some settings =>
      obtain ⟨level, spelled⟩ := (Settings.told_read read).readable given
      exact absurd spelled (none_spelled level)

end File

/-! ## The level in force -/

namespace Program

open CommandLine (Gives)
open ConfigFile (Chosen)
open Ldap (Client Dial)

variable {view : FileView} {invocation : Invocation} {path : Bytes} {level : LogLevel}

/-- The level of the first place that gives one: the command line, the file at `path` and the
environment, if that gives one that can be read.  Else it is `warning`. -/
inductive InForce (view : FileView) (path : Bytes) (invocation : Invocation) : LogLevel → Prop
  | commandLine {value : Bytes} {level : LogLevel}
      (given : Gives .logLevel invocation.arguments value) (spelled : level.SpelledBy value) :
      InForce view path invocation level
  | file {text : String} {level : LogLevel}
      (silent : ∀ value, ¬ Gives .logLevel invocation.arguments value)
      (given : view.LevelText path text) (spelled : level.Spelled text) :
      InForce view path invocation level
  | environment {octets : Bytes} {level : LogLevel}
      (silent : ∀ value, ¬ Gives .logLevel invocation.arguments value)
      (unmarked : ∀ text, ¬ view.LevelText path text)
      (given : invocation.logLevel = some octets) (spelled : level.SpelledBy octets) :
      InForce view path invocation level
  | default (silent : ∀ value, ¬ Gives .logLevel invocation.arguments value)
      (unmarked : ∀ text, ¬ view.LevelText path text)
      (useless : ∀ octets, invocation.logLevel = some octets →
        ∀ level : LogLevel, ¬ level.SpelledBy octets) :
      InForce view path invocation .warning

/-- The level in force is the effective one of what the places tell. -/
theorem inForce_iff {commandLine? file? : Option LogLevel}
    (commandLine : Told SpelledBy (Gives .logLevel invocation.arguments) commandLine?)
    (file : Told Spelled (view.LevelText path) file?) :
    InForce view path invocation level ↔
      (LogLevel.effective (commandLine?.or file?) invocation.logLevel).1 = level := by
  cases commandLine with
  | @level told value spelled only =>
      have given := (only value).2 rfl
      change InForce view path invocation level ↔ told = level
      constructor
      · intro inForce
        cases inForce with
        | commandLine given' spelled' =>
            obtain rfl := (only _).1 given'
            exact spelled.unique spelled'
        | file silent | environment silent | default silent => exact absurd given (silent value)
      · rintro rfl
        exact .commandLine given spelled
  | nothing silent =>
      cases file with
      | @level told text spelled only =>
          have given := (only text).2 rfl
          change InForce view path invocation level ↔ told = level
          constructor
          · intro inForce
            cases inForce with
            | commandLine given' => exact absurd given' (silent _)
            | file silent given' spelled' =>
                obtain rfl := (only _).1 given'
                exact spelled.unique spelled'
            | environment silent unmarked | default silent unmarked =>
                exact absurd given (unmarked text)
          · rintro rfl
            exact .file silent given spelled
      | nothing unmarked =>
          change InForce view path invocation level ↔
            (LogLevel.effective none invocation.logLevel).1 = level
          rw [LogLevel.effective_of_none]
          constructor
          · intro inForce
            cases inForce with
            | commandLine given => exact absurd given (silent _)
            | file silent given => exact absurd given (unmarked _)
            | environment silent unmarked given spelled => exact .inl ⟨_, given, spelled⟩
            | default silent unmarked useless => exact .inr ⟨useless, rfl⟩
          · rintro (⟨octets, given, spelled⟩ | ⟨useless, rfl⟩)
            · exact .environment silent unmarked given spelled
            · exact .default silent unmarked useless

theorem level_inForce {ready : Ready} (prepared : prepare view invocation = .ok ready) :
    InForce view ready.path invocation level ↔ level = ready.level := by
  cases prepare_eq_ok_iff.1 prepared with
  | @intro overrides path loaded effective complaint parsed chosen holds accepted levels =>
      have configured : (loaded.overriddenBy overrides).logLevel =
        overrides.logLevel.or loaded.logLevel := rfl
      rw [inForce_iff (CommandLine.told_of_parse parsed) holds.told, ← configured, levels]
      exact eq_comm

/-! ## What keeps a program from starting -/

/-- The environment's level is looked at when all else is settled. -/
theorem prepare_environment (environment : Option Bytes) :
    prepare view { invocation with logLevel := environment } =
      (prepare view invocation).map fun ready =>
        let (level, complaint) := LogLevel.effective ready.settings.logLevel environment
        ⟨ready.path, ready.settings, level, complaint⟩ := by
  unfold prepare
  simp only
  cases CommandLine.parse invocation.arguments with
  | error ending => rfl
  | ok overrides =>
      simp only
      cases ConfigFile.locate view.present overrides.configFile invocation.configFile with
      | error missing => rfl
      | ok path =>
          simp only
          cases Settings.load view path with
          | error error => rfl
          | ok loaded =>
              simp only
              cases (loaded.overriddenBy overrides).validate with
              | error error => rfl
              | ok valid => rfl

/-- Arguments with an unusable level are refused, if nothing in front of it ends the program. -/
theorem unfit_of_gives {value : Bytes} (given : Gives .logLevel invocation.arguments value)
    (none_spelled : ∀ level : LogLevel, ¬ level.SpelledBy value) :
    ∃ ending, Unfit view invocation (.usage ending) := by
  cases parsed : CommandLine.parse invocation.arguments with
  | error ending => exact ⟨ending, .arguments parsed⟩
  | ok overrides =>
      obtain ⟨level, spelled⟩ := (CommandLine.told_of_parse parsed).readable given
      exact absurd spelled (none_spelled level)

section Run

variable {κ : Type} (client : Client κ) (dial : Dial) (script : Script) (server : κ)
  {machine : Machine}

theorem idle_of_unfit {halt : Halt} (unfit : Unfit machine.files.view invocation halt) :
    Idle halt server machine (run client dial invocation script server machine) := by
  have prepared := prepare_of_unfit unfit
  simp only [run, prepared]
  exact ⟨rfl, rfl, rfl, rfl, rfl, rfl, exitCode_report halt⟩

theorem written_of_prepare {ready : Ready}
    (prepared : prepare machine.files.view invocation = .ok ready) :
    let outcome := run client dial invocation script server machine
    outcome.written = outcome.machine.log.filter (Event.passes ready.level.threshold) := by
  simp only [run, prepared]

/-- How a ready program ends is up to its daemon. -/
theorem Ready.exitCode_report (ready other : Ready) (result : Upshot (Except Failure Unit)) :
    (ready.report result).exitCode = (other.report result).exitCode := by
  rcases result with (failure | done) | words <;> rfl

theorem Ready.output_report (ready other : Ready) (result : Upshot (Except Failure Unit)) :
    (ready.report result).output = (other.report result).output := by
  rcases result with (failure | done) | words <;> rfl

/-- Two runs that differ in nothing but what is written of them. -/
structure Alike (outcome other : Outcome κ) : Prop where
  exitCode : other.report.exitCode = outcome.report.exitCode
  output : other.report.output = outcome.report.output
  machine : other.machine = outcome.machine
  server : other.server = outcome.server
  serving : other.serving = outcome.serving
  sightings : other.sightings = outcome.sightings

theorem alike_environment (environment : Option Bytes) :
    Alike (run client dial invocation script server machine)
      (run client dial { invocation with logLevel := environment } script server machine) := by
  have elsewhere : prepare machine.files.view { invocation with logLevel := environment } = _ :=
    prepare_environment environment
  unfold run
  rw [elsewhere]
  cases prepare machine.files.view invocation with
  | error halt => exact ⟨rfl, rfl, rfl, rfl, rfl, rfl⟩
  | ok ready =>
      -- The level and the complaint show in the written events and the complaints alone.
      refine ⟨?_, ?_, rfl, rfl, rfl, rfl⟩
      · exact Ready.exitCode_report _ ready _
      · exact Ready.output_report _ ready _

end Run

/-- **The level that a program logs at, and which values of it keep the program from starting.**
A text is a level just when it spells one, whatever its case and the blank text around it, and
comes back in the error otherwise.  A program that gets to run logs at the level in force.  The
environment makes no difference to whether it does; a command line or a file with a level that
cannot be read keeps it from running. -/
theorem level_selected :
    (∀ text level, LogLevel.parse text = .ok level ↔ level.Spelled text) ∧
    (∀ text error, LogLevel.parse text = .error error ↔
      (∀ level : LogLevel, ¬ level.Spelled text) ∧ error = .logLevel text) ∧
    (∀ before text after other, Text.isBlank before = true → Text.isBlank after = true →
      Text.lowerAscii text = Text.lowerAscii other →
        LogLevel.parse? (before ++ (text ++ after)) = LogLevel.parse? other) ∧
    ∀ {κ : Type} (client : Client κ) (dial : Dial) (invocation : Invocation)
      (script : Script) (server : κ) (machine : Machine),
      let view := machine.files.view
      let outcome := run client dial invocation script server machine
      (∀ ready, prepare view invocation = .ok ready →
        (∃ overrides, CommandLine.parse invocation.arguments = .ok overrides ∧
          Chosen view.present overrides.configFile invocation.configFile ready.path) ∧
        (∀ level, InForce view ready.path invocation level ↔ level = ready.level) ∧
        outcome.written = outcome.machine.log.filter (Event.passes ready.level.threshold)) ∧
      (∀ environment, Alike outcome
        (run client dial { invocation with logLevel := environment } script server machine)) ∧
      (∀ value, Gives .logLevel invocation.arguments value →
        (∀ level : LogLevel, ¬ level.SpelledBy value) →
          ∃ ending, Unfit view invocation (.usage ending) ∧
            Idle (.usage ending) server machine outcome) ∧
      ∀ overrides path text, CommandLine.parse invocation.arguments = .ok overrides →
        Chosen view.present overrides.configFile invocation.configFile path →
        view.LevelText path text → (∀ level : LogLevel, ¬ level.Spelled text) →
          ∃ reason, Unfit view invocation (.failure reason) ∧
            Idle (.failure reason) server machine outcome := by
  refine ⟨fun text level => LogLevel.parse_eq_ok_iff, fun text error => LogLevel.parse_eq_error_iff,
    fun before text after other => LogLevel.parse?_respelled, ?_⟩
  intro κ client dial invocation script server machine view outcome
  refine ⟨?_, ?_, ?_, ?_⟩
  · intro ready prepared
    refine ⟨?_, fun level => level_inForce prepared,
      written_of_prepare client dial script server prepared⟩
    cases prepare_eq_ok_iff.1 prepared with
    | intro parsed chosen holds accepted levels => exact ⟨_, parsed, chosen⟩
  · exact alike_environment client dial script server
  · intro value given none_spelled
    obtain ⟨ending, unfit⟩ : ∃ ending, Unfit view invocation (.usage ending) :=
      unfit_of_gives given none_spelled
    exact ⟨ending, unfit, idle_of_unfit client dial script server unfit⟩
  · intro overrides path text parsed chosen told none_spelled
    have unfit := Unfit.spoiled parsed chosen (told.spoiled none_spelled)
    exact ⟨_, unfit, idle_of_unfit client dial script server unfit⟩

end Program

end ListExpansion
