/-
# ListExpansion.Proofs.CommandLine -- what a command line gives

An option is written with its name or its letter, and its value stands in the same argument or
in the next (`Setting.Written`, `Free`).  A command line that is accepted is a row of options
with their values (`Reads`), taken in one after the other (`parse_eq_ok_iff`).

`Gives` says without reading from the left what value a command line has for an option; in an
accepted one that is the value that is read (`Reads.mem_iff_gives`).  Of the values for an option
one at most is kept (`Keeps.parse`).  So the log level of an accepted command line is the one that
it gives (`told_of_parse`), and so is its configuration file (`configFile_of_parse`).
-/
import ListExpansion.CommandLine
import ListExpansion.Proofs.Address.Parts
import ListExpansion.Proofs.Config.LogLevel

namespace ListExpansion

set_option autoImplicit false

theorem Bytes.cutFirst_eq_some_iff {separator : UInt8} {octets before after : Bytes} :
    cutFirst separator octets = some (before, after) ↔
      separator ∉ before ∧ octets = before ++ separator :: after := by
  constructor
  · intro cut
    by_cases found : separator ∈ octets
    · obtain ⟨front, back, rfl, free⟩ := List.eq_append_cons_of_mem found
      rw [cutFirst_append free] at cut
      cases cut
      exact ⟨free, rfl⟩
    · rw [cutFirst_of_not_mem found] at cut
      cases cut
  · rintro ⟨free, rfl⟩
    exact cutFirst_append free after

namespace CommandLine

/-! ## How an option is written -/

def dash : UInt8 := 0x2D

def Setting.name : Setting → String
  | .configFile => "config"
  | .logLevel => "log-level"
  | .pidFile => "pid-file"
  | .socket => "socket"

def Setting.letter : Setting → UInt8
  | .configFile => 0x63
  | .logLevel => 0x6C
  | .pidFile => 0x70
  | .socket => 0x73

/-- An argument that is this option, and the value that stands in it. -/
inductive Setting.Written (setting : Setting) : (argument : Bytes) → (value : Option Bytes) → Prop
  | name : Written setting (dash :: dash :: Bytes.ofText setting.name) none
  | nameWith (value : Bytes) :
      Written setting (dash :: dash :: (Bytes.ofText setting.name ++ equalsSign :: value))
        (some value)
  | letter : Written setting [dash, setting.letter] none
  | letterWith (value : Bytes) :
      Written setting (dash :: setting.letter :: equalsSign :: value) (some value)
  | letterBefore {first : UInt8} (plain : first ≠ equalsSign) (value : Bytes) :
      Written setting (dash :: setting.letter :: first :: value) (some (first :: value))

/-- An argument that may be a value: it does not begin with a dash, or is one. -/
def Free (argument : Bytes) : Prop :=
  argument = [dash] ∨ argument.head? ≠ some dash

theorem Flag.ofName?_eq_iff {name : Bytes} {setting : Setting} :
    ofName? name = some (.takesValue setting) ↔ name = Bytes.ofText setting.name := by
  constructor
  · intro known
    unfold ofName? at known
    split at known <;> cases known
    all_goals
      next decoded => exact ((Utf8.decode?_eq_some_iff _ _).1 decoded).symm
  · rintro rfl
    rw [ofName?, (Utf8.decode?_eq_some_iff _ _).2 rfl]
    cases setting <;> rfl

theorem Flag.ofLetter?_eq_iff {letter : UInt8} {setting : Setting} :
    ofLetter? letter = some (.takesValue setting) ↔ letter = setting.letter := by
  constructor
  · intro known
    unfold ofLetter? at known
    repeat' split at known
    all_goals
      cases known
    all_goals assumption
  · rintro rfl
    cases setting <;> rfl

namespace Argument

variable {argument : Bytes} {setting : Setting} {value : Option Bytes}

theorem of_name {long : Bytes} (something : long ≠ []) :
    of (dash :: dash :: long) =
      match Bytes.cutFirst equalsSign long with
      | some (name, value) => .option (Flag.ofName? name) (some value)
      | none => .option (Flag.ofName? long) none := by
  cases long with
  | nil => exact absurd rfl something
  | cons b rest => rfl

theorem of_letter {letter : UInt8} (other : letter ≠ dash) (rest : Bytes) :
    of (dash :: letter :: rest) = ofLetter letter rest := by
  have different : (0x2D : UInt8) ≠ letter := Ne.symm other
  simp [of, dash, Bytes.dropLeading?, different]

theorem of_free (free : Free argument) : of argument = .free argument := by
  rcases free with rfl | plain
  · rfl
  · match argument, plain with
    | [], _ => rfl
    | b :: rest, plain =>
        have different : b ≠ 0x2D := fun same => plain (congrArg some same)
        have other : (0x2D : UInt8) ≠ b := Ne.symm different
        simp [of, Bytes.dropLeading?, other, different]

/-- All arguments there are. -/
theorem cases_of_dashes (argument : Bytes) :
    argument = [dash, dash] ∨ (∃ long, long ≠ [] ∧ argument = dash :: dash :: long) ∨
      (∃ letter rest, letter ≠ dash ∧ argument = dash :: letter :: rest) ∨ Free argument := by
  match argument with
  | [] => exact .inr (.inr (.inr (.inr nofun)))
  | [b] =>
      by_cases first : b = dash
      · exact .inr (.inr (.inr (.inl (first ▸ rfl))))
      · exact .inr (.inr (.inr (.inr fun same => first (Option.some.inj same))))
  | b :: letter :: rest =>
      by_cases first : b = dash
      · obtain rfl := first
        by_cases second : letter = dash
        · obtain rfl := second
          cases rest with
          | nil => exact .inl rfl
          | cons c rest => exact .inr (.inl ⟨c :: rest, List.cons_ne_nil _ _, rfl⟩)
        · exact .inr (.inr (.inl ⟨letter, rest, second, rfl⟩))
      · exact .inr (.inr (.inr (.inr fun same => first (Option.some.inj same))))

/-- By its form an argument is the separator, an option or free. -/
theorem of_cases (argument : Bytes) :
    (argument = [dash, dash] ∧ of argument = .separator) ∨
      (∃ flag value, of argument = .option flag value) ∨
        Free argument ∧ of argument = .free argument := by
  obtain rfl | ⟨long, something, rfl⟩ | ⟨letter, rest, other, rfl⟩ | free :=
    cases_of_dashes argument
  · exact .inl ⟨rfl, rfl⟩
  · rw [of_name something]
    split <;> exact .inr (.inl ⟨_, _, rfl⟩)
  · rw [of_letter other, ofLetter]
    split <;> exact .inr (.inl ⟨_, _, rfl⟩)
  · exact .inr (.inr ⟨free, of_free free⟩)

theorem of_eq_free_iff {text : Bytes} :
    of argument = .free text ↔ Free argument ∧ text = argument := by
  obtain ⟨rfl, form⟩ | ⟨flag, value, form⟩ | ⟨free, form⟩ := of_cases argument <;> rw [form]
  · have marked : ¬ Free [dash, dash] := by
      rintro (same | other)
      · cases same
      · exact other rfl
    exact ⟨nofun, fun free => absurd free.1 marked⟩
  · refine ⟨nofun, fun free => ?_⟩
    cases form.symm.trans (of_free free.1)
  · rw [Argument.free.injEq]
    exact ⟨fun same => ⟨free, same.symm⟩, fun same => same.2.symm⟩

theorem of_eq_separator_iff : of argument = .separator ↔ argument = [dash, dash] := by
  refine ⟨fun separator => ?_, fun same => same ▸ rfl⟩
  obtain ⟨same, -⟩ | ⟨flag, value, form⟩ | ⟨free, form⟩ := of_cases argument
  · exact same
  · cases form.symm.trans separator
  · cases form.symm.trans separator

theorem of_written (written : setting.Written argument value) :
    of argument = .option (some (.takesValue setting)) value := by
  have named : Bytes.ofText setting.name ≠ [] ∧ equalsSign ∉ Bytes.ofText setting.name := by
    cases setting <;> decide
  have lettered : setting.letter ≠ dash := by cases setting <;> decide
  have name : Flag.ofName? (Bytes.ofText setting.name) = some (.takesValue setting) :=
    Flag.ofName?_eq_iff.2 rfl
  have letter : Flag.ofLetter? setting.letter = some (.takesValue setting) :=
    Flag.ofLetter?_eq_iff.2 rfl
  cases written with
  | name => simp only [of_name named.1, Bytes.cutFirst_of_not_mem named.2, name]
  | nameWith value => simp only [of_name (List.append_ne_nil_of_left_ne_nil named.1 _),
      Bytes.cutFirst_append named.2, name]
  | letter => simp only [of_letter lettered, ofLetter, letter, attachedValue]
  | letterWith value =>
      simp only [of_letter lettered, ofLetter, letter, attachedValue, if_true]
  | letterBefore plain value =>
      simp only [of_letter lettered, ofLetter, letter, attachedValue, if_neg plain]

theorem of_eq_option_iff :
    of argument = .option (some (.takesValue setting)) value ↔ setting.Written argument value := by
  refine ⟨fun form => ?_, of_written⟩
  obtain rfl | ⟨long, something, rfl⟩ | ⟨letter, rest, other, rfl⟩ | free :=
    cases_of_dashes argument
  · cases form
  · rw [of_name something] at form
    split at form
    · next name value cut =>
        injection form with known same
        obtain rfl := Flag.ofName?_eq_iff.1 known
        obtain ⟨-, rfl⟩ := Bytes.cutFirst_eq_some_iff.1 cut
        exact same ▸ .nameWith value
    · injection form with known same
      obtain rfl := Flag.ofName?_eq_iff.1 known
      exact same ▸ .name
  · rw [of_letter other, ofLetter] at form
    split at form
    · next known =>
        injection form with known' same
        cases known'
        obtain rfl := Flag.ofLetter?_eq_iff.1 known
        subst same
        match rest with
        | [] => exact .letter
        | b :: rest =>
            by_cases sign : b = equalsSign
            · obtain rfl := sign
              exact .letterWith rest
            · rw [attachedValue, if_neg sign]
              exact .letterBefore sign rest
    · next none_takes =>
        injection form with known same
        exact absurd known (none_takes setting)
  · rw [of_free free] at form
    cases form

end Argument

/-! ## Accepted command lines -/

/-- The arguments are options with these values, in this order. -/
inductive Reads : (arguments : List Bytes) → (given : List (Setting × Bytes)) → Prop
  | done : Reads [] []
  | separator : Reads [[dash, dash]] []
  | attached {setting : Setting} {argument value : Bytes} {rest : List Bytes}
      {given : List (Setting × Bytes)} (written : setting.Written argument (some value))
      (later : Reads rest given) : Reads (argument :: rest) ((setting, value) :: given)
  | apart {setting : Setting} {argument value : Bytes} {rest : List Bytes}
      {given : List (Setting × Bytes)} (written : setting.Written argument none)
      (free : Free value) (later : Reads rest given) :
      Reads (argument :: value :: rest) ((setting, value) :: given)

/-- All values taken in, one after the other. -/
def Overrides.setAll (overrides : Overrides) (given : List (Setting × Bytes)) :
    Except UsageError Overrides :=
  given.foldlM (fun overrides (setting, value) => overrides.set setting value) overrides

section Accepted

variable {overrides result : Overrides} {arguments rest : List Bytes} {setting : Setting}
  {argument value : Bytes} {given : List (Setting × Bytes)}

theorem Overrides.setAll_nil : overrides.setAll [] = .ok result ↔ overrides = result :=
  ⟨fun same => Except.ok.inj same, fun same => congrArg Except.ok same⟩

theorem Overrides.setAll_cons :
    overrides.setAll ((setting, value) :: given) = .ok result ↔
      ∃ after, overrides.set setting value = .ok after ∧ after.setAll given = .ok result := by
  simp only [setAll, List.foldlM_cons]
  cases overrides.set setting value <;> simp [Bind.bind, Except.bind]

namespace Progress

/-- What is known before an argument when no value is owed. -/
def having (overrides : Overrides) : Progress := ⟨overrides, none⟩

theorem run_attached (written : setting.Written argument (some value)) :
    (having overrides).run (argument :: rest) = .ok result ↔
      ∃ after, overrides.set setting value = .ok after ∧ (having after).run rest = .ok result := by
  simp only [run, Argument.of_written written, step, settle, having]
  cases overrides.set setting value <;> simp

theorem run_written (written : setting.Written argument none) :
    (having overrides).run (argument :: rest) = run ⟨overrides, some (setting, none)⟩ rest := by
  simp only [run, Argument.of_written written, step, settle, having]

/-- A value that stands in an argument of its own is taken in before the next option or at the
end. -/
theorem run_settled :
    run ⟨overrides, some (setting, some value)⟩ rest = .ok result ↔
      ∃ after, overrides.set setting value = .ok after ∧ (having after).run rest = .ok result := by
  cases rest with
  | nil =>
      simp only [run, finish, having, settle]
      cases overrides.set setting value <;> simp
  | cons argument rest =>
      rcases form : Argument.of argument with _ | ⟨_ | (_ | _ | _), _ | inside⟩ | text
      case separator =>
        simp only [run, form, finish, having, settle]
        cases overrides.set setting value <;> cases rest <;> simp
      case free =>
        simp only [run, form, step, having]
        cases overrides.set setting value <;> simp
      all_goals
        simp only [run, form, step, having, settle]
        cases overrides.set setting value <;> simp

/-- Where a value is owed it is the next argument. -/
theorem run_owing :
    run ⟨overrides, some (setting, none)⟩ arguments = .ok result ↔
      ∃ value rest, arguments = value :: rest ∧ Free value ∧
        run ⟨overrides, some (setting, some value)⟩ rest = .ok result := by
  constructor
  · intro accepted
    cases arguments with
    | nil => simp [run, finish, settle] at accepted
    | cons argument rest =>
        rcases form : Argument.of argument with _ | ⟨_ | (_ | _ | _), _ | inside⟩ | text
        case separator =>
          cases rest <;> simp [run, form, finish, settle] at accepted
        case free =>
          obtain ⟨free, rfl⟩ := Argument.of_eq_free_iff.1 form
          simp only [run, form, step] at accepted
          exact ⟨_, rest, rfl, free, accepted⟩
        all_goals simp [run, form, step, settle] at accepted
  · rintro ⟨value, rest, rfl, free, accepted⟩
    simpa only [run, Argument.of_free free, step] using accepted

/-- An accepted argument where no value is owed: the last separator or an option. -/
theorem run_cons (accepted : (having overrides).run (argument :: rest) = .ok result) :
    (argument = [dash, dash] ∧ rest = [] ∧ result = overrides) ∨
      ∃ setting value, Setting.Written setting argument value := by
  rcases form : Argument.of argument with _ | ⟨_ | (setting | _ | _), value⟩ | text
  case separator =>
    cases rest with
    | nil =>
        simp only [run, form, finish, settle, having] at accepted
        cases accepted
        exact .inl ⟨Argument.of_eq_separator_iff.1 form, rfl, rfl⟩
    | cons next rest => simp [run, form] at accepted
  case option.some.takesValue => exact .inr ⟨setting, value, Argument.of_eq_option_iff.1 form⟩
  case free => simp [run, form, step, having] at accepted
  all_goals cases value <;> simp [run, form, step, settle, having] at accepted

theorem run_of_reads (reads : Reads arguments given) (all : overrides.setAll given = .ok result) :
    (having overrides).run arguments = .ok result := by
  induction reads generalizing overrides with
  | done | separator =>
      obtain rfl := Overrides.setAll_nil.1 all
      rfl
  | attached written later ih =>
      obtain ⟨after, set, all⟩ := Overrides.setAll_cons.1 all
      exact (run_attached written).2 ⟨after, set, ih all⟩
  | apart written free later ih =>
      obtain ⟨after, set, all⟩ := Overrides.setAll_cons.1 all
      rw [run_written written]
      exact run_owing.2 ⟨_, _, rfl, free, run_settled.2 ⟨after, set, ih all⟩⟩

/-- By induction on the arguments, for those that begin with an option and those that begin with
a value that is owed. -/
theorem reads_of_run (arguments : List Bytes) :
    (∀ overrides, (having overrides).run arguments = .ok result →
      ∃ given, Reads arguments given ∧ overrides.setAll given = .ok result) ∧
    ∀ overrides setting, run ⟨overrides, some (setting, none)⟩ arguments = .ok result →
      ∃ value rest given, arguments = value :: rest ∧ Free value ∧ Reads rest given ∧
        overrides.setAll ((setting, value) :: given) = .ok result := by
  induction arguments with
  | nil =>
      refine ⟨fun overrides accepted => ⟨[], .done, ?_⟩, fun overrides setting accepted => ?_⟩
      · cases accepted
        rfl
      · obtain ⟨value, rest, impossible, -⟩ := run_owing.1 accepted
        cases impossible
  | cons argument rest ih =>
      refine ⟨fun overrides accepted => ?_, fun overrides setting accepted => ?_⟩
      · obtain ⟨rfl, rfl, rfl⟩ | ⟨setting, _ | value, written⟩ := run_cons accepted
        · exact ⟨[], .separator, rfl⟩
        · rw [run_written written] at accepted
          obtain ⟨value, later, given, rfl, free, reads, all⟩ := ih.2 overrides setting accepted
          exact ⟨_, .apart written free reads, all⟩
        · obtain ⟨after, set, accepted⟩ := (run_attached written).1 accepted
          obtain ⟨given, reads, all⟩ := ih.1 after accepted
          exact ⟨_, .attached written reads, Overrides.setAll_cons.2 ⟨after, set, all⟩⟩
      · obtain ⟨value, later, same, free, accepted⟩ := run_owing.1 accepted
        obtain ⟨rfl, rfl⟩ := List.cons.inj same
        obtain ⟨after, set, accepted⟩ := run_settled.1 accepted
        obtain ⟨given, reads, all⟩ := ih.1 after accepted
        exact ⟨_, _, given, rfl, free, reads,
          Overrides.setAll_cons.2 ⟨after, set, all⟩⟩

end Progress

/-- **A command line is accepted for what it sets just when its arguments are options and all
their values can be taken in, in their order.** -/
theorem parse_eq_ok_iff :
    parse arguments = .ok result ↔
      ∃ given, Reads arguments given ∧ Overrides.none.setAll given = .ok result :=
  ⟨(Progress.reads_of_run arguments).1 _, fun ⟨_, reads, all⟩ => Progress.run_of_reads reads all⟩

end Accepted

/-! ## The value of one option -/

/-- Somewhere in the arguments the option is written with this value. -/
inductive Gives (setting : Setting) : (arguments : List Bytes) → (value : Bytes) → Prop
  | attached {argument value : Bytes} (written : setting.Written argument (some value))
      (rest : List Bytes) : Gives setting (argument :: rest) value
  | apart {argument value : Bytes} (written : setting.Written argument none) (free : Free value)
      (rest : List Bytes) : Gives setting (argument :: value :: rest) value
  | later (argument : Bytes) {rest : List Bytes} {value : Bytes}
      (gives : Gives setting rest value) : Gives setting (argument :: rest) value

section Value

variable {setting other : Setting} {argument value : Bytes} {value? value'? : Option Bytes}
  {arguments : List Bytes} {given : List (Setting × Bytes)}

/-- An argument is written for one option and with one value. -/
theorem Setting.Written.unique (one : setting.Written argument value?)
    (two : other.Written argument value'?) : setting = other ∧ value? = value'? := by
  have same := (Argument.of_written one).symm.trans (Argument.of_written two)
  injection same with same_flag same_value
  cases same_flag
  exact ⟨rfl, same_value⟩

theorem Free.not_written (free : Free argument) : ¬ setting.Written argument value? := by
  intro written
  cases (Argument.of_free free).symm.trans (Argument.of_written written)

/-- What is read for an option is what is given for it. -/
theorem Reads.mem_iff_gives (reads : Reads arguments given) :
    (setting, value) ∈ given ↔ Gives setting arguments value := by
  induction reads with
  | done => exact ⟨nofun, nofun⟩
  | separator =>
      refine ⟨nofun, fun gives => ?_⟩
      cases gives with
      | attached written rest => cases (Argument.of_written written)
      | later argument gives => cases gives
  | @attached mine argument held rest given written later ih =>
      rw [List.mem_cons, ih]
      constructor
      · rintro (same | gives)
        · cases same
          exact .attached written rest
        · exact .later argument gives
      · intro gives
        cases gives with
        | attached written' rest =>
            obtain ⟨rfl, same⟩ := written.unique written'
            cases same
            exact .inl rfl
        | apart written' free rest =>
            obtain ⟨-, impossible⟩ := written.unique written'
            cases impossible
        | later argument gives => exact .inr gives
  | @apart mine argument held rest given written free later ih =>
      rw [List.mem_cons, ih]
      constructor
      · rintro (same | gives)
        · cases same
          exact .apart written free rest
        · exact .later argument (.later held gives)
      · intro gives
        cases gives with
        | attached written' rest =>
            obtain ⟨-, impossible⟩ := written.unique written'
            cases impossible
        | apart written' free' rest =>
            obtain ⟨rfl, -⟩ := written.unique written'
            exact .inl rfl
        | later argument gives =>
            -- The value itself is no option, so what is given stands behind it.
            cases gives with
            | attached written' rest => exact absurd written' free.not_written
            | apart written' free' rest => exact absurd written' free.not_written
            | later argument gives => exact .inr gives

end Value

/-! ## What is kept of the values -/

/-- A field keeps the values of `setting`, one at most and as it `reads`, and no others. -/
structure Keeps {α : Type} (setting : Setting) (field : Overrides → Option α)
    (reads : α → Bytes → Prop) : Prop where
  own : ∀ {overrides after value}, Overrides.set overrides setting value = .ok after →
    field overrides = none ∧ ∃ kept, reads kept value ∧ field after = some kept
  others : ∀ {overrides after other value}, other ≠ setting →
    Overrides.set overrides other value = .ok after → field after = field overrides

/-- A field after all values: as it was, with nothing given for it, or with the one value given. -/
inductive Kept {α : Type} (reads : α → Bytes → Prop) (given : Bytes → Prop) (before : Option α) :
    Option α → Prop
  | still (silent : ∀ value, ¬ given value) : Kept reads given before before
  | now {kept : α} {value : Bytes} (unset : before = none) (read : reads kept value)
      (only : ∀ other, given other ↔ other = value) : Kept reads given before (some kept)

section Kept

variable {α : Type} {setting : Setting} {field : Overrides → Option α} {reads : α → Bytes → Prop}
  {overrides after result : Overrides} {value : Bytes} {arguments : List Bytes}
  {given : List (Setting × Bytes)}

theorem Keeps.setAll (keeps : Keeps setting field reads)
    (all : overrides.setAll given = .ok result) :
    Kept reads (fun value => (setting, value) ∈ given) (field overrides) (field result) := by
  induction given generalizing overrides with
  | nil =>
      obtain rfl := Overrides.setAll_nil.1 all
      exact .still nofun
  | cons entry rest ih =>
      obtain ⟨which, held⟩ := entry
      obtain ⟨after, set, later⟩ := Overrides.setAll_cons.1 all
      have kept := ih later
      by_cases mine : which = setting
      · -- What is there already is never given again.
        obtain rfl := mine
        obtain ⟨unset, kept_now, read, there⟩ := keeps.own set
        rw [there] at kept
        generalize field result = last at kept ⊢
        cases kept with
        | still silent => exact .now unset read fun other => by simp [silent]
        | now impossible => cases impossible
      · rw [keeps.others mine set] at kept
        simpa only [List.mem_cons, Prod.mk.injEq, Ne.symm mine, false_and, false_or] using kept

/-- An accepted command line leaves in a field what it gives. -/
theorem Keeps.parse (keeps : Keeps setting field reads) (unset : field Overrides.none = none)
    (parsed : CommandLine.parse arguments = .ok result) :
    Kept reads (Gives setting arguments) none (field result) := by
  obtain ⟨given, taken, all⟩ := parse_eq_ok_iff.1 parsed
  have kept := keeps.setAll all
  have same : (fun value => (setting, value) ∈ given) = Gives setting arguments :=
    funext fun value => propext taken.mem_iff_gives
  rwa [unset, same] at kept

theorem ok_of_map {α β ε : Type} {read : Except ε α} {f : α → β} {made : β}
    (mapped : read.map f = .ok made) : ∃ result, read = .ok result ∧ f result = made := by
  cases read with
  | error error => cases mapped
  | ok result => exact ⟨result, rfl, Except.ok.inj mapped⟩

theorem ok_of_setOnce {α : Type} {current result : Option α} {read : Except UsageError α}
    (set : setOnce current read = .ok result) :
    current = none ∧ ∃ value, read = .ok value ∧ result = some value := by
  cases current with
  | some taken => cases set
  | none =>
      obtain ⟨value, reads, same⟩ := ok_of_map set
      exact ⟨rfl, value, reads, same.symm⟩

theorem readText_parse_eq_ok_iff {level : LogLevel} :
    readText LogLevel.parse value = .ok level ↔ level.SpelledBy value := by
  unfold readText LogLevel.SpelledBy
  simp only [← Utf8.decode?_eq_some_iff, ← LogLevel.parse_eq_ok_iff]
  cases Utf8.decode? value with
  | none => simp
  | some text => cases parsed : LogLevel.parse text <;> simp [parsed]

theorem eq_of_readPath {path : Bytes} (reads : readPath value = .ok path) : path = value := by
  unfold readPath at reads
  split at reads
  · cases reads
  · exact (Except.ok.inj reads).symm

theorem keeps_logLevel : Keeps .logLevel Overrides.logLevel LogLevel.SpelledBy where
  own set := by
    obtain ⟨taken, once, rfl⟩ := ok_of_map set
    obtain ⟨unset, level, reads, rfl⟩ := ok_of_setOnce once
    exact ⟨unset, level, readText_parse_eq_ok_iff.1 reads, rfl⟩
  others {overrides after other value} different set := by
    cases other with
    | logLevel => exact absurd rfl different
    | configFile | pidFile | socket =>
        obtain ⟨taken, -, rfl⟩ := ok_of_map set
        rfl

theorem keeps_configFile : Keeps .configFile Overrides.configFile Eq where
  own set := by
    obtain ⟨taken, once, rfl⟩ := ok_of_map set
    obtain ⟨unset, path, reads, rfl⟩ := ok_of_setOnce once
    exact ⟨unset, path, eq_of_readPath reads, rfl⟩
  others {overrides after other value} different set := by
    cases other with
    | configFile => exact absurd rfl different
    | logLevel | pidFile | socket =>
        obtain ⟨taken, -, rfl⟩ := ok_of_map set
        rfl

/-- **The log level of an accepted command line is the one that it gives.** -/
theorem told_of_parse (parsed : parse arguments = .ok result) :
    LogLevel.Told LogLevel.SpelledBy (Gives .logLevel arguments) result.logLevel := by
  have kept := keeps_logLevel.parse rfl parsed
  generalize result.logLevel = level? at kept ⊢
  cases kept with
  | still silent => exact .nothing silent
  | now unset spelled only => exact .level spelled only

/-- **So is its configuration file.** -/
theorem configFile_of_parse (parsed : parse arguments = .ok result) :
    result.configFile = some value ↔ Gives .configFile arguments value := by
  have kept := keeps_configFile.parse rfl parsed
  generalize result.configFile = path? at kept ⊢
  cases kept with
  | still silent => exact ⟨nofun, fun gives => absurd gives (silent value)⟩
  | @now path given unset same only =>
      rw [only, same, Option.some.injEq, eq_comm]

end Kept

end CommandLine

end ListExpansion
