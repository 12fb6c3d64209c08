/-
# ListExpansion.Proofs.Config.Validity -- what settings have to meet

Settings are usable when they meet eleven demands (`Demand`), which are looked at in a fixed
order.  `Checked` says of any row of demands what is answered: the error of the first one that
is not met.  Rows are put together as checks are (`Checked.append`), so what each part of the
settings answers adds up to what validation does (`checked_validate`).

It succeeds just when every demand is met (`validate_eq_ok_iff`), and else its error is that of
the first unmet (`validate_eq_error_iff`), which it names (`Demand.error_names`).
-/
import ListExpansion.Config.Settings

namespace ListExpansion

set_option autoImplicit false

def LdapConfig.query (config : LdapConfig) : LookupName → Query
  | .list => config.listQuery
  | .account => config.accountQuery

def Query.text (query : Query) : QueryPart → String
  | .base => query.base
  | .filter => query.filter
  | .resultAttribute => query.resultAttribute

inductive Demand where
  /-- The process id has a path, if it is to be written. -/
  | pidFile
  | host
  /-- Who binds has a name. -/
  | bindName
  /-- Who binds has a password. -/
  | password
  /-- A search may take some time. -/
  | searchLimit
  | query (lookup : LookupName) (part : QueryPart)
  deriving DecidableEq, Repr

namespace Demand

def Met (settings : Settings) : Demand → Prop
  | .pidFile => settings.pidFile ≠ some []
  | .host => Text.isBlank settings.ldap.host = false
  | .bindName => ∀ bind, settings.ldap.bind = some bind → Text.isBlank bind.dn = false
  | .password => ∀ bind, settings.ldap.bind = some bind → bind.password ≠ ""
  | .searchLimit => settings.ldap.searchSeconds ≠ some 0
  | .query lookup part => Text.isBlank ((settings.ldap.query lookup).text part) = false

/-- What is said of settings that do not meet the demand. -/
def error : Demand → ConfigError
  | .pidFile => .emptyPidFile
  | .host => .noHost
  | .bindName => .noBindName
  | .password => .noPassword
  | .searchLimit => .zeroSearchLimit
  | .query lookup part => .blankQuery lookup part

/-- The setting that the demand is on, and of a query the part. -/
def field : Demand → String
  | .pidFile => "pid_file"
  | .host => "ldap.host"
  | .bindName => "ldap.bind.dn"
  | .password => "ldap.bind"
  | .searchLimit => "ldap.search_secs"
  | .query lookup part => lookup.field ++ ": " ++ part.name

def ofQuery (lookup : LookupName) : List Demand :=
  [.query lookup .base, .query lookup .filter, .query lookup .resultAttribute]

/-- All demands, first things first. -/
def inOrder : List Demand :=
  [.pidFile, .host, .bindName, .password, .searchLimit] ++ ofQuery .list ++ ofQuery .account

theorem mem_inOrder (demand : Demand) : demand ∈ inOrder := by
  match demand with
  | .pidFile | .host | .bindName | .password | .searchLimit => decide
  | .query lookup part => cases lookup <;> cases part <;> decide

/-- The setting's name is a piece of `text`. -/
def NamedIn (field text : String) : Prop :=
  ∃ before after, text = before ++ field ++ after

theorem namedIn_missing (field : String) : NamedIn field (ConfigError.missing field) :=
  ⟨"Missing required field: ", "", String.append_empty.symm⟩

theorem namedIn_unusable (field reason : String) :
    NamedIn field (ConfigError.unusable field reason) := by
  refine ⟨"Invalid configuration for ", ": " ++ reason, ?_⟩
  rw [← String.append_assoc]
  rfl

/-- An error names the setting that it is about. -/
theorem error_names (demand : Demand) : NamedIn demand.field demand.error.message := by
  cases demand with
  | pidFile => exact namedIn_unusable _ _
  | host => exact namedIn_missing _
  | bindName => exact namedIn_missing _
  | password => exact namedIn_unusable _ _
  | searchLimit => exact namedIn_unusable _ _
  | query lookup part =>
      refine ⟨"Invalid configuration for ", " must not be empty", ?_⟩
      have message : (Demand.query lookup part).error.message =
        "Invalid configuration for " ++ lookup.field ++ ": " ++
          (part.name ++ " must not be empty") := rfl
      rw [message, field]
      simp only [String.append_assoc]

end Demand

/-! ## The first that is not met -/

/-- What is answered to a row of demands. -/
inductive Checked (settings : Settings) : List Demand → Except ConfigError Unit → Prop
  | done : Checked settings [] (.ok ())
  | met {demand : Demand} {rest : List Demand} {answer : Except ConfigError Unit}
      (met : demand.Met settings) (later : Checked settings rest answer) :
      Checked settings (demand :: rest) answer
  | unmet {demand : Demand} (rest : List Demand) (unmet : ¬ demand.Met settings) :
      Checked settings (demand :: rest) (.error demand.error)

namespace Checked

variable {settings : Settings} {demands early late : List Demand}
  {answer other : Except ConfigError Unit}

/-- One more demand in front. -/
theorem cons {demand : Demand} {fails : Prop} [Decidable fails]
    (met : demand.Met settings ↔ ¬ fails) (rest : Checked settings demands answer) :
    Checked settings (demand :: demands) (if fails then .error demand.error else answer) := by
  split
  · next failing => exact .unmet demands fun holds => met.1 holds failing
  · next passing => exact .met (met.2 passing) rest

/-- One row after the other. -/
theorem append (first : Checked settings early answer) (second : Checked settings late other) :
    Checked settings (early ++ late) (answer >>= fun _ => other) := by
  induction first with
  | done => exact second
  | met met later ih => exact .met met ih
  | unmet rest unmet => exact .unmet _ unmet

theorem eq_ok_iff (checked : Checked settings demands answer) :
    answer = .ok () ↔ ∀ demand ∈ demands, demand.Met settings := by
  induction checked with
  | done => simp
  | met met later ih => simp [ih, met]
  | unmet rest unmet => simp [unmet]

theorem eq_error_iff (checked : Checked settings demands answer) (error : ConfigError) :
    answer = .error error ↔
      ∃ before demand after, demands = before ++ demand :: after ∧
        (∀ earlier ∈ before, earlier.Met settings) ∧ ¬ demand.Met settings ∧
          error = demand.error := by
  induction checked with
  | done => simp
  | @met first rest answer met later ih =>
      rw [ih]
      constructor
      · rintro ⟨before, demand, after, rfl, earlier, unmet, rfl⟩
        exact ⟨first :: before, demand, after, rfl, List.forall_mem_cons.2 ⟨met, earlier⟩, unmet,
          rfl⟩
      · rintro ⟨before, demand, after, parted, earlier, unmet, rfl⟩
        cases before with
        | nil =>
            cases parted
            exact absurd met unmet
        | cons first before =>
            cases parted
            exact ⟨before, demand, after, rfl, (List.forall_mem_cons.1 earlier).2, unmet, rfl⟩
  | @unmet first rest unmet =>
      constructor
      · intro same
        cases same
        exact ⟨[], first, rest, rfl, nofun, unmet, rfl⟩
      · rintro ⟨before, demand, after, parted, earlier, -, rfl⟩
        cases before with
        | nil =>
            cases parted
            rfl
        | cons first before =>
            cases parted
            exact absurd (earlier _ List.mem_cons_self) unmet

end Checked

/-! ## Part by part -/

namespace Settings

variable (settings : Settings)

theorem checked_query (lookup : LookupName) :
    Checked settings (Demand.ofQuery lookup) ((settings.ldap.query lookup).validate lookup) := by
  have met (part : QueryPart) : Demand.Met settings (.query lookup part) ↔
      ¬ Text.isBlank ((settings.ldap.query lookup).text part) = true :=
    iff_of_eq (Bool.not_eq_true _).symm
  exact .cons (met .base) (.cons (met .filter) (.cons (met .resultAttribute) .done))

theorem checked_bind :
    Checked settings [.bindName, .password]
      (match settings.ldap.bind with
      | some bind => bind.validate
      | none => .ok ()) := by
  cases binds : settings.ldap.bind with
  | none =>
      have met (demand : Demand) (asks : demand = .bindName ∨ demand = .password) :
          demand.Met settings := by
        rcases asks with rfl | rfl <;> exact fun bind found => nomatch binds.symm.trans found
      exact .met (met _ (.inl rfl)) (.met (met _ (.inr rfl)) .done)
  | some bind =>
      have named : Demand.Met settings .bindName ↔ ¬ Text.isBlank bind.dn = true := by
        simp [Demand.Met, binds]
      have given : Demand.Met settings .password ↔ ¬ bind.password.isEmpty = true := by
        simp [Demand.Met, binds, String.isEmpty_iff]
      exact .cons named (.cons given .done)

theorem ldap_validate_eq :
    settings.ldap.validate =
      if Text.isBlank settings.ldap.host then .error .noHost
      else
        (match settings.ldap.bind with
          | some bind => bind.validate
          | none => .ok ()) >>= fun _ =>
        if settings.ldap.searchSeconds = some 0 then .error .zeroSearchLimit
        else
          settings.ldap.listQuery.validate .list >>= fun _ =>
            settings.ldap.accountQuery.validate .account := by
  unfold LdapConfig.validate
  cases settings.ldap.bind <;> rfl

theorem checked_ldap :
    Checked settings Demand.inOrder.tail settings.ldap.validate := by
  have host : Demand.Met settings .host ↔ ¬ Text.isBlank settings.ldap.host = true :=
    iff_of_eq (Bool.not_eq_true _).symm
  have limit : Demand.Met settings .searchLimit ↔ ¬ settings.ldap.searchSeconds = some 0 := Iff.rfl
  have queries := (settings.checked_query .list).append (settings.checked_query .account)
  rw [ldap_validate_eq]
  exact .cons host (settings.checked_bind.append (.cons limit queries))

/-- Validation answers to all demands in their order. -/
theorem checked_validate : Checked settings Demand.inOrder settings.validate :=
  .cons Iff.rfl settings.checked_ldap

theorem validate_eq_ok_iff : settings.validate = .ok () ↔ ∀ demand : Demand, demand.Met settings :=
  settings.checked_validate.eq_ok_iff.trans
    ⟨fun all demand => all demand demand.mem_inOrder, fun all demand _ => all demand⟩

theorem validate_eq_error_iff (error : ConfigError) :
    settings.validate = .error error ↔
      ∃ before demand after, Demand.inOrder = before ++ demand :: after ∧
        (∀ earlier ∈ before, earlier.Met settings) ∧ ¬ demand.Met settings ∧
          error = demand.error :=
  settings.checked_validate.eq_error_iff error

end Settings

end ListExpansion
