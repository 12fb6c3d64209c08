/-
# ListExpansion.Proofs.Program.Startup -- nothing happens before the configuration is good

Whatever the arguments, the environment and the files are, the program is unfit to run for a
reason (`Unfit`) or fit to run with certain settings (`Fit`), and what it comes to before it
runs is exactly that (`prepare_eq_error_iff`, `prepare_eq_ok_iff`).

`nothing_before_configured`: a program that is unfit changes nothing, tries nothing and speaks
to nobody; it tells the reason and fails, unless it was only asked for its help or version.
Which file it chooses (`Chooses`) is read off the arguments and the environment as they are.
-/
import ListExpansion.Program
import ListExpansion.Proofs.CommandLine
import ListExpansion.Proofs.Config.File

namespace ListExpansion.Program

set_option autoImplicit false

open CommandLine (Gives)
open ConfigFile (Chosen)
open Settings (Holds Spoiled)
open Ldap (Client Dial)

variable {view : FileView} {invocation : Invocation}

/-! ## The chosen file -/

/-- The arguments name the configuration file, or else the environment does. -/
inductive Names (invocation : Invocation) : Bytes → Prop
  | argument {path : Bytes} (given : Gives .configFile invocation.arguments path) :
      Names invocation path
  | environment {path : Bytes} (silent : ∀ other, ¬ Gives .configFile invocation.arguments other)
      (variable_ : invocation.configFile = some path) : Names invocation path

/-- The program takes its configuration from the file at this path: the one that is named, or if
none is, the first of the usual places where there is something. -/
inductive Chooses (view : FileView) (invocation : Invocation) : Bytes → Prop
  | named {path : Bytes} (names : Names invocation path) (there : view.present path = true) :
      Chooses view invocation path
  | usual {before after : List Bytes} {path : Bytes} (unnamed : ∀ other, ¬ Names invocation other)
      (parted : ConfigFile.usualPlaces.map Bytes.ofText = before ++ path :: after)
      (missing : ∀ earlier ∈ before, view.present earlier = false)
      (there : view.present path = true) : Chooses view invocation path

section Chooses

variable {overrides : CommandLine.Overrides} {path : Bytes}

theorem names_iff (parsed : CommandLine.parse invocation.arguments = .ok overrides) :
    Names invocation path ↔ overrides.configFile.or invocation.configFile = some path := by
  have gives (value : Bytes) :
      Gives .configFile invocation.arguments value ↔ overrides.configFile = some value :=
    (CommandLine.configFile_of_parse parsed).symm
  constructor
  · rintro (given | ⟨silent, variable_⟩)
    · rw [(gives path).1 given, Option.some_or]
    · have unset : overrides.configFile = none :=
        Option.eq_none_iff_forall_ne_some.2 fun value set => silent value ((gives value).2 set)
      rw [unset, Option.none_or, variable_]
  · intro either
    cases set : overrides.configFile with
    | some value =>
        rw [set, Option.some_or] at either
        exact .argument ((gives path).2 (set.trans either))
    | none =>
        rw [set, Option.none_or] at either
        refine .environment (fun value given => ?_) either
        cases set.symm.trans ((gives value).1 given)

/-- The options that were read choose the file that the arguments themselves choose. -/
theorem chosen_iff (parsed : CommandLine.parse invocation.arguments = .ok overrides) :
    Chosen view.present overrides.configFile invocation.configFile path ↔
      Chooses view invocation path := by
  have names (other : Bytes) :
      Names invocation other ↔ overrides.configFile.or invocation.configFile = some other :=
    names_iff parsed
  constructor
  · intro chosen
    generalize overrides.configFile = explicit at chosen names
    generalize invocation.configFile = environment at chosen names
    cases chosen with
    | named environment there => exact .named ((names path).2 rfl) there
    | fromEnvironment there => exact .named ((names path).2 rfl) there
    | usual parted missing there =>
        exact .usual (fun other named => nomatch (names other).1 named) parted missing there
  · intro chooses
    cases chooses with
    | named named there =>
        have either := (names path).1 named
        generalize overrides.configFile = explicit at either ⊢
        cases explicit with
        | some value =>
            cases either
            exact .named _ there
        | none =>
            rw [show invocation.configFile = some path from either]
            exact .fromEnvironment there
    | usual unnamed parted missing there =>
        have neither : overrides.configFile.or invocation.configFile = none :=
          Option.eq_none_iff_forall_ne_some.2 fun other either =>
            unnamed other ((names other).2 either)
        obtain ⟨unset, unsetToo⟩ := Option.or_eq_none_iff.1 neither
        rw [unset, unsetToo]
        exact .usual parted missing there

end Chooses

/-! ## Fit and unfit -/

/-- Why the program cannot run, and what it says then. -/
inductive Unfit (view : FileView) (invocation : Invocation) : Halt → Prop
  | arguments {ending : CommandLine.Ending}
      (rejected : CommandLine.parse invocation.arguments = .error ending) :
      Unfit view invocation (.usage ending)
  | nowhere {overrides : CommandLine.Overrides}
      (parsed : CommandLine.parse invocation.arguments = .ok overrides)
      (none_chosen : ∀ path,
        ¬ Chosen view.present overrides.configFile invocation.configFile path) :
      Unfit view invocation
        (.failure (.of (ConfigFile.places overrides.configFile invocation.configFile).2.message))
  | spoiled {overrides : CommandLine.Overrides} {path : Bytes} {error : ConfigError}
      (parsed : CommandLine.parse invocation.arguments = .ok overrides)
      (chosen : Chosen view.present overrides.configFile invocation.configFile path)
      (spoiled : Spoiled view path error) : Unfit view invocation (.failure error.failure)
  | invalid {overrides : CommandLine.Overrides} {path : Bytes} {loaded : Settings}
      {error : ConfigError} (parsed : CommandLine.parse invocation.arguments = .ok overrides)
      (chosen : Chosen view.present overrides.configFile invocation.configFile path)
      (holds : Holds view path loaded)
      (refused : (loaded.overriddenBy overrides).validate = .error error) :
      Unfit view invocation (.failure error.failure)

/-- The program can run with the settings of the chosen file and the command line. -/
inductive Fit (view : FileView) (invocation : Invocation) : Ready → Prop
  | intro {overrides : CommandLine.Overrides} {path : Bytes} {loaded : Settings} {level : LogLevel}
      {complaint : Option String}
      (parsed : CommandLine.parse invocation.arguments = .ok overrides)
      (chosen : Chosen view.present overrides.configFile invocation.configFile path)
      (holds : Holds view path loaded)
      (accepted : (loaded.overriddenBy overrides).validate = .ok ())
      (levels : LogLevel.effective (loaded.overriddenBy overrides).logLevel invocation.logLevel =
        (level, complaint)) :
      Fit view invocation ⟨path, loaded.overriddenBy overrides, level, complaint⟩

theorem prepare_of_unfit {halt : Halt} (unfit : Unfit view invocation halt) :
    prepare view invocation = .error halt := by
  cases unfit with
  | arguments rejected => simp only [prepare, rejected]
  | nowhere parsed none_chosen =>
      simp only [prepare, parsed, ConfigFile.locate_eq_error_iff.2 ⟨none_chosen, rfl⟩]
  | spoiled parsed chosen spoiled =>
      simp only [prepare, parsed, ConfigFile.locate_eq_ok_iff.2 chosen,
        Settings.load_of_spoiled spoiled]
  | invalid parsed chosen holds refused =>
      simp only [prepare, parsed, ConfigFile.locate_eq_ok_iff.2 chosen,
        Settings.load_of_holds holds, refused]

theorem prepare_of_fit {ready : Ready} (fit : Fit view invocation ready) :
    prepare view invocation = .ok ready := by
  cases fit with
  | intro parsed chosen holds accepted levels =>
      simp only [prepare, parsed, ConfigFile.locate_eq_ok_iff.2 chosen,
        Settings.load_of_holds holds, accepted, levels]

/-- There is no third way. -/
theorem fit_or_unfit (view : FileView) (invocation : Invocation) :
    (∃ ready, Fit view invocation ready) ∨ ∃ halt, Unfit view invocation halt := by
  cases parsed : CommandLine.parse invocation.arguments with
  | error ending => exact .inr ⟨_, .arguments parsed⟩
  | ok overrides =>
      cases located : ConfigFile.locate view.present overrides.configFile invocation.configFile with
      | error missing =>
          exact .inr ⟨_, .nowhere parsed (ConfigFile.locate_eq_error_iff.1 located).1⟩
      | ok path =>
          have chosen := ConfigFile.locate_eq_ok_iff.1 located
          obtain ⟨loaded, -, holds⟩ | ⟨error, -, spoiled⟩ := Settings.load_cases view path
          · cases checked : (loaded.overriddenBy overrides).validate with
            | error error => exact .inr ⟨_, .invalid parsed chosen holds checked⟩
            | ok valid => exact .inl ⟨_, .intro parsed chosen holds checked rfl⟩
          · exact .inr ⟨_, .spoiled parsed chosen spoiled⟩

theorem prepare_eq_error_iff {halt : Halt} :
    prepare view invocation = .error halt ↔ Unfit view invocation halt := by
  refine ⟨fun halted => ?_, prepare_of_unfit⟩
  obtain ⟨ready, fit⟩ | ⟨other, unfit⟩ := fit_or_unfit view invocation
  · cases halted.symm.trans (prepare_of_fit fit)
  · cases halted.symm.trans (prepare_of_unfit unfit)
    exact unfit

theorem prepare_eq_ok_iff {ready : Ready} :
    prepare view invocation = .ok ready ↔ Fit view invocation ready := by
  refine ⟨fun prepared => ?_, prepare_of_fit⟩
  obtain ⟨other, fit⟩ | ⟨halt, unfit⟩ := fit_or_unfit view invocation
  · cases prepared.symm.trans (prepare_of_fit fit)
    exact fit
  · cases prepared.symm.trans (prepare_of_unfit unfit)

/-- A named file that is missing leaves nothing to run with. -/
theorem unfit_of_missing {named : Bytes} (names : Names invocation named)
    (missing : view.present named = false) : ∃ halt, Unfit view invocation halt := by
  cases parsed : CommandLine.parse invocation.arguments with
  | error ending => exact ⟨_, .arguments parsed⟩
  | ok overrides =>
      exact ⟨_, .nowhere parsed fun path =>
        ConfigFile.not_chosen_of_missing ((names_iff parsed).1 names) missing⟩

/-- Only who asks for help or the version is served without a configuration. -/
theorem exitCode_report (halt : Halt) :
    halt.report.exitCode = 0 ↔ halt = .usage .help ∨ halt = .usage .version := by
  cases halt with
  | usage ending => cases ending <;> simp [Halt.report, Report.answering, Report.misused]
  | failure reason => simp [Halt.report, Report.failed]

variable {κ : Type}

/-- A program that told `halt` and did nothing else. -/
structure Idle (halt : Halt) (server : κ) (machine : Machine) (outcome : Outcome κ) : Prop where
  /-- Files, sockets, ports and the record of what was tried are as they were. -/
  machine : outcome.machine = machine
  /-- So is the directory's server. -/
  server : outcome.server = server
  written : outcome.written = []
  serving : outcome.serving = none
  sightings : outcome.sightings = []
  report : outcome.report = halt.report
  exitCode : outcome.report.exitCode = 0 ↔ halt = .usage .help ∨ halt = .usage .version

/-- **Nothing happens before the configuration is known to be good.**  A program that is unfit
to run is idle; any other runs the daemon, with the settings of the chosen file.  A named file
that is missing makes it unfit whatever other files there are.  Which file is chosen and which is
named, the arguments and the environment say. -/
theorem nothing_before_configured (client : Client κ) (dial : Dial)
    (invocation : Invocation) (script : Script) (server : κ) (machine : Machine) :
    let view := machine.files.view
    let outcome := run client dial invocation script server machine
    ((∃ halt, Unfit view invocation halt ∧ Idle halt server machine outcome) ∨
      ∃ ready, Fit view invocation ready ∧
        let life := Daemon.run client dial ready.settings script server
          (machine.note ready.event)
        outcome.machine = life.machine ∧ outcome.server = life.server ∧
          outcome.report = ready.report life.result) ∧
    (∀ halt, Unfit view invocation halt → Idle halt server machine outcome) ∧
    (∀ overrides named, CommandLine.parse invocation.arguments = .ok overrides →
      overrides.configFile.or invocation.configFile = some named → view.present named = false →
      ∃ reason, Unfit view invocation (.failure reason)) ∧
    (∀ overrides path, CommandLine.parse invocation.arguments = .ok overrides →
      (Chosen view.present overrides.configFile invocation.configFile path ↔
        Chooses view invocation path)) ∧
    (∀ ready, Fit view invocation ready → Chooses view invocation ready.path) ∧
    ∀ named, Names invocation named → view.present named = false →
      ∃ halt, Unfit view invocation halt ∧ Idle halt server machine outcome := by
  intro view outcome
  have idle (halt : Halt) (unfit : Unfit view invocation halt) :
      Idle halt server machine outcome := by
    have same : outcome = ⟨halt.report, [], "", none, [], machine, server⟩ := by
      simp only [outcome, run]
      rw [show prepare machine.files.view invocation = _ from prepare_of_unfit unfit]
    rw [same]
    exact ⟨rfl, rfl, rfl, rfl, rfl, rfl, exitCode_report halt⟩
  refine ⟨?_, idle, fun overrides named parsed names missing => ?_,
    fun overrides path parsed => chosen_iff parsed, fun ready fit => ?_, fun named names missing => ?_⟩
  · obtain ⟨ready, fit⟩ | ⟨halt, unfit⟩ := fit_or_unfit view invocation
    · refine .inr ⟨ready, fit, ?_⟩
      simp only [outcome, run]
      rw [show prepare machine.files.view invocation = _ from prepare_of_fit fit]
      exact ⟨rfl, rfl, rfl⟩
    · exact .inl ⟨halt, unfit, idle halt unfit⟩
  · exact ⟨_, .nowhere parsed fun path => ConfigFile.not_chosen_of_missing names missing⟩
  · cases fit with
    | intro parsed chosen holds accepted levels => exact (chosen_iff parsed).1 chosen
  · obtain ⟨halt, unfit⟩ := unfit_of_missing names missing
    exact ⟨halt, unfit, idle halt unfit⟩

end ListExpansion.Program
