/-
# ListExpansion.Proofs.Config.LogLevel -- which texts are levels

A level is read from its name, from a short form of four of the names or from a digit
(`LogLevel.Named`), in letters of either case and with blank text around it
(`LogLevel.Spelled`).  These are all the texts that are read (`parse?_eq_some_iff`), and any
other comes back as it was in the error (`parse_eq_error_iff`).

The environment's octets count if they are such a text (`LogLevel.SpelledBy`); if they are not,
the level is the default, as it is without any (`effective_of_none`).
-/
import ListExpansion.Config.LogLevel
import ListExpansion.Proofs.Text.Blank
import ListExpansion.Proofs.Text.Utf8

namespace ListExpansion.LogLevel

set_option autoImplicit false

open Text (isBlank isWhiteSpace lowerAscii trim)

variable {text other before after : String} {level : LogLevel}

/-- The accepted names, in small letters.  The digits are those of syslog, which has no level for
tracing. -/
inductive Named : LogLevel → String → Prop
  | name (level : LogLevel) : Named level level.name
  | emerg : Named .emergency "emerg"
  | crit : Named .critical "crit"
  | err : Named .error "err"
  | warn : Named .warning "warn"
  | digit (level : LogLevel) (ranked : level.rank < 8) : Named level (toString level.rank)

/-- The text is a name of the level in letters of either case, between blank texts. -/
def Spelled (level : LogLevel) (text : String) : Prop :=
  ∃ before core after, text = before ++ (core ++ after) ∧ isBlank before = true ∧
    isBlank after = true ∧ Named level (lowerAscii core)

theorem named_of_mem : ∀ entry ∈ spellings, Named entry.2 entry.1 := by
  simp only [spellings, List.forall_mem_cons]
  exact ⟨.name _, .emerg, .digit .emergency (by decide), .name _, .digit .alert (by decide),
    .name _, .crit, .digit .critical (by decide), .name _, .err, .digit .error (by decide),
    .name _, .warn, .digit .warning (by decide), .name _, .digit .notice (by decide),
    .name _, .digit .info (by decide), .name _, .digit .debug (by decide), .name _,
    List.forall_mem_nil _⟩

theorem mem_of_named (named : Named level text) : (text, level) ∈ spellings := by
  cases named with
  | name => cases level <;> decide
  | digit level ranked =>
      cases level with
      | trace => exact absurd ranked (by decide)
      | _ => decide
  | emerg | crit | err | warn => decide

/-- No spelling is one of two levels. -/
theorem lookup_spellings_iff : spellings.lookup text = some level ↔ Named level text := by
  rw [List.lookup_eq_some_iff]
  constructor
  · rintro ⟨early, late, parted, -⟩
    exact named_of_mem (text, level) (by simp [parted])
  · intro named
    obtain ⟨early, late, parted⟩ := List.append_of_mem (mem_of_named named)
    refine ⟨early, late, parted, fun entry earlier => ?_⟩
    have distinct : (spellings.map Prod.fst).Nodup := by decide
    rw [parted, List.map_append, List.nodup_append] at distinct
    exact bne_iff_ne.2
      (distinct.2.2 entry.1 (List.mem_map_of_mem earlier) text List.mem_cons_self).symm

theorem Named.solid (named : Named level (lowerAscii text)) :
    ∀ c ∈ text.toList, isWhiteSpace c = false := by
  have solid : ∀ entry ∈ spellings, entry.1.toList.any isWhiteSpace = false := by decide
  intro c there
  have small : c.toLower ∈ (lowerAscii text).toList := by
    simpa [lowerAscii] using ⟨c, there, rfl⟩
  have other := List.any_eq_false.1 (solid _ (mem_of_named named)) _ small
  rw [← Text.isWhiteSpace_toLower]
  exact Bool.eq_false_iff.2 other

theorem parse?_eq_some_iff : parse? text = some level ↔ Spelled level text := by
  rw [parse?, lookup_spellings_iff]
  constructor
  · intro named
    obtain ⟨before, after, parted, blank_before, blank_after⟩ := Text.exists_padding text
    exact ⟨before, trim text, after, parted, blank_before, blank_after, named⟩
  · rintro ⟨before, core, after, rfl, blank_before, blank_after, named⟩
    rwa [Text.trim_padded blank_before blank_after, Text.trim_of_forall named.solid]

theorem parse_eq_ok_iff : parse text = .ok level ↔ Spelled level text := by
  rw [← parse?_eq_some_iff, parse]
  cases parse? text <;> simp

/-- What is no level is told as it was given. -/
theorem parse_eq_error_iff {error : ConfigError} :
    parse text = .error error ↔ (∀ level, ¬ Spelled level text) ∧ error = .logLevel text := by
  simp only [← parse?_eq_some_iff, parse]
  cases parse? text <;> simp [eq_comm]

/-- Blank text around it and the case of its letters do not matter to a text. -/
theorem parse?_respelled (blank_before : isBlank before = true) (blank_after : isBlank after = true)
    (same : lowerAscii text = lowerAscii other) :
    parse? (before ++ (text ++ after)) = parse? other := by
  rw [parse?, parse?, Text.trim_padded blank_before blank_after, ← Text.trim_lowerAscii, same,
    Text.trim_lowerAscii]

theorem Spelled.unique {level' : LogLevel} (this : Spelled level text)
    (that : Spelled level' text) : level = level' := by
  have same := (parse?_eq_some_iff.2 this).symm.trans (parse?_eq_some_iff.2 that)
  exact Option.some.inj same

/-! ## Where levels come from -/

/-- The octets are a text that spells the level. -/
def SpelledBy (level : LogLevel) (octets : Bytes) : Prop :=
  ∃ text, Bytes.ofText text = octets ∧ Spelled level text

theorem SpelledBy.unique {level' : LogLevel} {octets : Bytes} (this : SpelledBy level octets)
    (that : SpelledBy level' octets) : level = level' := by
  obtain ⟨text, rfl, spelled⟩ := this
  obtain ⟨other, same, spelled'⟩ := that
  obtain rfl := Utf8.ofText_injective same
  exact spelled.unique spelled'

/-- A place where a level may be given, and the level that was read there: none if nothing is
given, and else that of the one value given. -/
inductive Told {σ : Type} (spells : LogLevel → σ → Prop) (given : σ → Prop) :
    Option LogLevel → Prop
  | nothing (silent : ∀ value, ¬ given value) : Told spells given none
  | level {level : LogLevel} {value : σ} (spelled : spells level value)
      (only : ∀ other, given other ↔ other = value) : Told spells given (some level)

/-- Every value that was given could be read. -/
theorem Told.readable {σ : Type} {spells : LogLevel → σ → Prop} {given : σ → Prop}
    {level? : Option LogLevel} (told : Told spells given level?) {value : σ} (there : given value) :
    ∃ level, spells level value := by
  cases told with
  | nothing silent => exact absurd there (silent value)
  | level spelled only =>
      obtain rfl := (only value).1 there
      exact ⟨_, spelled⟩

theorem Told.congr {σ : Type} {spells : LogLevel → σ → Prop} {given given' : σ → Prop}
    {level? : Option LogLevel} (told : Told spells given level?)
    (same : ∀ value, given value ↔ given' value) : Told spells given' level? := by
  have equal : given = given' := funext fun value => propext (same value)
  exact equal ▸ told

/-- Without a configured level it is that of the environment, if it has one, and else the
default. -/
theorem effective_of_none {environment : Option Bytes} :
    (effective none environment).1 = level ↔
      (∃ octets, environment = some octets ∧ level.SpelledBy octets) ∨
        (∀ octets, environment = some octets → ∀ other : LogLevel, ¬ other.SpelledBy octets) ∧
          level = .warning := by
  simp only [SpelledBy, ← Utf8.decode?_eq_some_iff, ← parse?_eq_some_iff, effective]
  cases environment with
  | none => simp [default, eq_comm]
  | some octets =>
      cases decoded : Utf8.decode? octets with
      | none => simp [decoded, default, eq_comm]
      | some text => cases parsed : parse? text <;> simp [decoded, parsed, default, eq_comm]

end ListExpansion.LogLevel
