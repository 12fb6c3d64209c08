/-
# ListExpansion.Proofs.Config.File -- which file is read, and what it holds

`ConfigFile.Chosen` says which file the configuration comes from: a named one is it or there is
none, and only without a name do the usual places count.  `Settings.Holds` says what a file
that can be read holds, and `Settings.Spoiled` what is wrong with any other.
-/
import ListExpansion.Config.File

namespace ListExpansion

set_option autoImplicit false

namespace ConfigFile

variable {present : Bytes → Bool} {explicit environment : Option Bytes} {path : Bytes}

/-- The file that the configuration comes from. -/
inductive Chosen (present : Bytes → Bool) : (explicit environment : Option Bytes) → Bytes → Prop
  | named {path : Bytes} (environment : Option Bytes) (there : present path = true) :
      Chosen present (some path) environment path
  | fromEnvironment {path : Bytes} (there : present path = true) :
      Chosen present none (some path) path
  /-- The first of the usual places where there is something. -/
  | usual {before after : List Bytes} {path : Bytes}
      (parted : usualPlaces.map Bytes.ofText = before ++ path :: after)
      (missing : ∀ earlier ∈ before, present earlier = false) (there : present path = true) :
      Chosen present none none path

theorem locate_eq_ok_iff :
    locate present explicit environment = .ok path ↔ Chosen present explicit environment path := by
  have single (named : Bytes) : [named].find? present = some path ↔
      present named = true ∧ named = path := by
    cases there : present named <;> simp [there]
  constructor
  · intro located
    unfold locate at located
    simp only at located
    split at located
    · next found =>
        cases located
        cases explicit with
        | some named =>
            obtain ⟨there, rfl⟩ := (single named).1 found
            exact .named environment there
        | none =>
            cases environment with
            | some named =>
                obtain ⟨there, rfl⟩ := (single named).1 found
                exact .fromEnvironment there
            | none =>
                obtain ⟨there, before, after, parted, missing⟩ :=
                  List.find?_eq_some_iff_append.1 found
                exact .usual parted (fun earlier member => by simpa using missing earlier member) there
    · cases located
  · intro chosen
    have found : (places explicit environment).1.find? present = some path := by
      cases chosen with
      | named environment there => exact (single path).2 ⟨there, rfl⟩
      | fromEnvironment there => exact (single path).2 ⟨there, rfl⟩
      | usual parted missing there =>
          exact List.find?_eq_some_iff_append.2 ⟨there, _, _, parted,
            fun earlier member => by simp [missing earlier member]⟩
    simp only [locate, found]

theorem locate_eq_error_iff {missing : Missing} :
    locate present explicit environment = .error missing ↔
      (∀ path, ¬ Chosen present explicit environment path) ∧
        missing = (places explicit environment).2 := by
  constructor
  · intro lost
    refine ⟨fun path chosen => ?_, ?_⟩
    · cases lost.symm.trans (locate_eq_ok_iff.2 chosen)
    · unfold locate at lost
      simp only at lost
      split at lost <;> cases lost
      rfl
  · rintro ⟨none_chosen, rfl⟩
    cases located : locate present explicit environment with
    | ok path => exact absurd (locate_eq_ok_iff.1 located) (none_chosen path)
    | error missing =>
        unfold locate at located
        simp only at located
        split at located <;> cases located
        rfl

/-- A named file that is missing is not made up for by any other. -/
theorem not_chosen_of_missing {named : Bytes} (names : explicit.or environment = some named)
    (missing : present named = false) : ¬ Chosen present explicit environment path := by
  intro chosen
  cases chosen with
  | named environment there =>
      cases names
      cases missing.symm.trans there
  | fromEnvironment there =>
      cases names
      cases missing.symm.trans there
  | usual parted none_before there => cases names

end ConfigFile

namespace Settings

variable {view : FileView} {path : Bytes} {settings : Settings} {error : ConfigError}

/-- The file at `path` is text and reads as `settings`. -/
inductive Holds (view : FileView) (path : Bytes) (settings : Settings) : Prop
  | intro {content : Bytes} {text : String} (reads : view.read path = .ok content)
      (decodes : Utf8.decode? content = some text) (parses : parse? text = some settings) :
      Holds view path settings

/-- What is wrong with a file that holds no settings. -/
inductive Spoiled (view : FileView) (path : Bytes) : ConfigError → Prop
  | unreadable {error : IoError} (fails : view.read path = .error error) :
      Spoiled view path (.unreadable path error.message)
  | notText {content : Bytes} (reads : view.read path = .ok content)
      (garbled : Utf8.decode? content = none) :
      Spoiled view path (.unreadable path IoError.notText.message)
  | unparsable {content : Bytes} {text : String} (reads : view.read path = .ok content)
      (decodes : Utf8.decode? content = some text) (fails : parse? text = none) :
      Spoiled view path (.unparsable path)

/-- A file holds what was loaded from it, or is spoiled in the way that was told. -/
theorem load_cases (view : FileView) (path : Bytes) :
    (∃ settings, load view path = .ok settings ∧ Holds view path settings) ∨
      ∃ error, load view path = .error error ∧ Spoiled view path error := by
  unfold load
  cases reads : view.read path with
  | error error => exact .inr ⟨_, rfl, .unreadable reads⟩
  | ok content =>
      simp only
      cases decodes : Utf8.decode? content with
      | none => exact .inr ⟨_, rfl, .notText reads decodes⟩
      | some text =>
          simp only
          cases parses : parse? text with
          | none => exact .inr ⟨_, rfl, .unparsable reads decodes parses⟩
          | some settings => exact .inl ⟨settings, rfl, .intro reads decodes parses⟩

theorem load_of_holds (holds : Holds view path settings) : load view path = .ok settings := by
  cases holds with
  | intro reads decodes parses => simp only [load, reads, decodes, parses]

theorem load_of_spoiled (spoiled : Spoiled view path error) : load view path = .error error := by
  cases spoiled with
  | unreadable fails => simp only [load, fails]
  | notText reads garbled => simp only [load, reads, garbled]
  | unparsable reads decodes fails => simp only [load, reads, decodes, fails]

end Settings

end ListExpansion
