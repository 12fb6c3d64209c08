/-
# ListExpansion.Proofs.Daemon.Requests -- what the directory's server is asked

Everything that a daemon asks of the directory goes through its library, which can keep a
record (`Library.recording`).  Connecting hands over one bind, and nothing if there is no
connection (`record_connect`); a daemon asks nothing else but searches, each with the time
that the settings give it, and an unbind (`run_keeps`).

A server takes a bind with a name but without a password for an anonymous one, and lets it
pass.  Settings that are valid lead to no such bind and to no search that is given up before
it begins (`Proper`).  `validated_session` puts this together with what makes settings valid.
-/
import ListExpansion.Ldap.TimeLimit
import ListExpansion.Proofs.Config.Validity
import ListExpansion.Proofs.Daemon.Releases

namespace ListExpansion

set_option autoImplicit false

namespace Ldap

/-- What is handed to a library. -/
inductive Handed where
  | bind (dn password : String)
  | search (limit : Option UInt64) (search : Search)
  | unbind

variable {κ : Type}

/-- The same library, with a record of what it is handed, oldest first. -/
def Library.recording (library : Library κ) : Library (κ × List Handed) where
  bind dn password state :=
    let (outcome, after) := library.bind dn password state.1
    (outcome, after, state.2 ++ [.bind dn password])
  search limit search state :=
    let (outcome, after) := library.search limit search state.1
    (outcome, after, state.2 ++ [.search limit search])
  unbind state :=
    let (outcome, after) := library.unbind state.1
    (outcome, after, state.2 ++ [.unbind])
  memory state := library.memory state.1

/-- Reaching the directory is one bind, on a connection that was opened. -/
theorem record_connect (library : Library κ) (config : LdapConfig) (server : κ)
    (record : List Handed) (opening : Except ClientFailure Unit) :
    (LdapDirectory.connect (library.recording.under config) config opening
        (server, record)).2.1.2 =
      match opening with
      | .error _ => record
      | .ok () => record ++ [.bind (credentials config).1 (credentials config).2] := by
  unfold LdapDirectory.connect LdapDirectory.start
  cases opening with
  | error failure => rfl
  | ok opened =>
      rcases answer : library.bind (credentials config).1 (credentials config).2 server
        with ⟨_ | _, _⟩ <;> simp [Library.under, Library.recording, answer]

/-! ## Proper requests -/

/-- The bind of these settings: anonymous if they bind nobody, and else by name and with a
password. -/
inductive ProperBind (config : LdapConfig) : (dn password : String) → Prop
  | anonymous (nobody : config.bind = none) : ProperBind config "" ""
  | simple {bind : Bind} (somebody : config.bind = some bind)
      (named : Text.isBlank bind.dn = false) (given : bind.password ≠ "") :
      ProperBind config bind.dn bind.password

/-- A request that is right under these settings. -/
inductive Proper (config : LdapConfig) : Handed → Prop
  | bind {dn password : String} (proper : ProperBind config dn password) :
      Proper config (.bind dn password)
  | search (search : Search) (lasting : config.searchSeconds ≠ some 0) :
      Proper config (.search config.searchSeconds search)
  | unbind : Proper config .unbind

section Proper

variable {config : LdapConfig} {dn password : String}

theorem ProperBind.anonymous_iff (proper : ProperBind config dn password) :
    dn = "" ∧ password = "" ↔ config.bind = none := by
  cases proper with
  | anonymous nobody => simp [nobody]
  | simple somebody named given => simp [somebody, given]

/-- Nobody binds by name alone. -/
theorem ProperBind.authenticated (proper : ProperBind config dn password) (named : dn ≠ "") :
    password ≠ "" := by
  cases proper with
  | anonymous nobody => exact absurd rfl named
  | simple somebody named given => exact given

end Proper

end Ldap

open Ldap (Client Dial Handed LdapDirectory Library Proper ProperBind)

/-- Valid settings bind properly. -/
theorem Settings.properBind {settings : Settings} (valid : settings.validate = .ok ()) :
    ProperBind settings.ldap (Ldap.credentials settings.ldap).1
      (Ldap.credentials settings.ldap).2 := by
  have met := settings.validate_eq_ok_iff.1 valid
  unfold Ldap.credentials
  cases binds : settings.ldap.bind with
  | none => exact .anonymous binds
  | some bind => exact .simple binds (met .bindName bind binds) (met .password bind binds)

namespace Daemon

variable {κ : Type}

section Keeps

variable {client : Client κ} {settings : Settings} {kept : κ → Prop}

theorem connect_keeps
    (bind : ∀ server, kept server → kept (client.bind (Ldap.credentials settings.ldap).1
      (Ldap.credentials settings.ldap).2 server).2)
    {opening : Except ClientFailure Unit} {server after : κ} (start : kept server)
    {reached : Except DirectoryError LdapDirectory} {events : List Event}
    (connects : LdapDirectory.connect client settings.ldap opening server =
      (reached, after, events)) : kept after := by
  have bound := bind server start
  unfold LdapDirectory.connect LdapDirectory.start at connects
  cases opening with
  | error failure =>
      cases connects
      exact start
  | ok opened =>
      revert bound connects
      simp only
      rcases client.bind _ _ server with ⟨_ | _, answered⟩ <;> rintro now ⟨⟩ <;> exact now

theorem search_keeps (search : ∀ search server, kept server → kept (client.search search server).2)
    (wanted : Search) (state : LdapDirectory × κ) (now : kept state.2) :
    kept ((LdapDirectory.asDirectory client).search wanted state).2.2 := by
  simp only [LdapDirectory.asDirectory, LdapDirectory.search]
  split
  · exact search wanted state.2 now
  · exact now

theorem letGo_keeps (unbind : ∀ server, kept server → kept (client.unbind server).2)
    (directory : LdapDirectory) {server : κ} (now : kept server) (machine : Machine) :
    kept (letGo client directory server machine).1 := by
  have disconnected : kept (directory.disconnect client server).2.2.1 := by
    unfold LdapDirectory.disconnect
    split
    · exact unbind server now
    · exact now
  revert disconnected
  unfold letGo
  rcases directory.disconnect client server with ⟨_ | _, handle, after, events⟩ <;> exact id

variable (kept) in
/-- A run keeps what the bind of its settings, every search and the unbind keep. -/
theorem run_keeps
    (bind : ∀ server, kept server → kept (client.bind (Ldap.credentials settings.ldap).1
      (Ldap.credentials settings.ldap).2 server).2)
    (search : ∀ search server, kept server → kept (client.search search server).2)
    (unbind : ∀ server, kept server → kept (client.unbind server).2)
    (dial : Dial) (script : Script) {server : κ} (start : kept server) (machine : Machine) :
    kept (run client dial settings script server machine).server := by
  have life := run_life client dial settings script server machine
  revert life
  generalize ending client dial settings script server machine = ending
  generalize run client dial settings script server machine = outcome
  intro life
  cases life with
  | unbound fails => exact start
  | unwritten binds fails => exact start
  | brokenOff binds writes breaks => exact start
  | unreached binds writes opens fails => exact connect_keeps bind start fails
  | @served listener bound written ready ended left directory handle connected asked after events
      opening result sightings binds writes opens connects readies serves leaves =>
      have reached : kept connected := connect_keeps bind start connects
      have served := serve_keeps (fun state => kept state.2) (search_keeps search)
        ⟨settings.ldap.listQuery, settings.ldap.accountQuery⟩ script
        (show kept (directory, connected).2 from reached) ready
      rw [serves] at served
      have gone := letGo_keeps unbind handle served
        ((Listener.close ended listener).note (.own .info "Shutting down..."))
      rwa [leaves] at gone

end Keeps

/-- Whatever the library of a daemon with valid settings is handed is proper. -/
theorem run_proper {settings : Settings} (valid : settings.validate = .ok ())
    (library : Library κ) (dial : Dial) (script : Script) (server : κ) (machine : Machine) :
    ∀ handed ∈ (run (library.recording.under settings.ldap) dial settings script (server, [])
      machine).server.2, Proper settings.ldap handed := by
  have lasting : settings.ldap.searchSeconds ≠ some 0 :=
    settings.validate_eq_ok_iff.1 valid .searchLimit
  have more {record : List Handed} {last : Handed} (proper : Proper settings.ldap last)
      (earlier : ∀ handed ∈ record, Proper settings.ldap handed) :
      ∀ handed ∈ record ++ [last], Proper settings.ldap handed := by
    rintro handed member
    rcases List.mem_append.1 member with there | added
    · exact earlier handed there
    · obtain rfl := List.mem_singleton.1 added
      exact proper
  exact run_keeps (fun state : κ × List Handed => ∀ handed ∈ state.2, Proper settings.ldap handed)
    (fun _ => more (.bind (Settings.properBind valid)))
    (fun search _ => more (.search search lasting)) (fun _ => more .unbind) dial script
    (List.forall_mem_nil _) machine

end Daemon

/-- **Valid settings give a usable and safe session.**  Settings are valid just when they meet
all demands, and else the error is that of the first they do not meet, which it names.  From
valid settings the directory is sent one bind when it is reached: an anonymous one if nobody is
to bind, and else one by name and with a password, so never one by name alone.  All that the
daemon asks is proper, and no search is given no time. -/
theorem Settings.validated_session (settings : Settings) :
    (settings.validate = .ok () ↔ ∀ demand : Demand, demand.Met settings) ∧
    (∀ error, settings.validate = .error error ↔
      ∃ before demand after, Demand.inOrder = before ++ demand :: after ∧
        (∀ earlier ∈ before, earlier.Met settings) ∧ ¬ demand.Met settings ∧
          error = demand.error) ∧
    (∀ demand : Demand, Demand.NamedIn demand.field demand.error.message) ∧
    (settings.validate = .ok () → ∀ {κ : Type} (library : Library κ) (server : κ),
      let client := library.recording.under settings.ldap
      (∀ failure, (LdapDirectory.connect client settings.ldap (.error failure)
        (server, [])).2.1.2 = []) ∧
      (∃ dn password, (LdapDirectory.connect client settings.ldap (.ok ()) (server, [])).2.1.2 =
        [.bind dn password] ∧ ProperBind settings.ldap dn password) ∧
      ∀ dial script machine, ∀ handed ∈ (Daemon.run client dial settings script
        (server, []) machine).server.2, Proper settings.ldap handed) ∧
    (∀ dn password, ProperBind settings.ldap dn password →
      (dn = "" ∧ password = "" ↔ settings.ldap.bind = none) ∧ (dn ≠ "" → password ≠ "")) ∧
    ∀ limit search, Proper settings.ldap (.search limit search) → limit ≠ some 0 := by
  refine ⟨settings.validate_eq_ok_iff, settings.validate_eq_error_iff, Demand.error_names,
    fun valid κ library server => ?_, fun dn password proper => ?_, fun limit search proper => ?_⟩
  · refine ⟨fun failure => Ldap.record_connect library _ server [] _,
      ⟨_, _, Ldap.record_connect library _ server [] _, Settings.properBind valid⟩,
      fun dial script machine => Daemon.run_proper valid library dial script server machine⟩
  · exact ⟨proper.anonymous_iff, proper.authenticated⟩
  · cases proper with
    | search search lasting => exact lasting

end ListExpansion
