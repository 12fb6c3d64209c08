/-
# ListExpansion.Proofs.Ldap.Password -- the password goes into the bind and nowhere else

Settings may be the same but for the password they bind with (`Settings.SameButPassword`, on
top of `LdapConfig.SameButPassword` and `Bind.SameButPassword`).  Such settings are as valid as
each other and show the same text, whether they are shown whole or in part.

Clients are alike when related servers answer them alike, each client to the bind with its own
credentials and both to everything else, and they have the same memory (`Ldap.Client.Alike`).
Through such clients a directory is reached, searched and let go of with the same results and the
same words.  Scripted servers are related if they were sent the same, passwords apart
(`Ldap.Server.client_alike`).
-/
import ListExpansion.Config.Settings
import ListExpansion.Ldap.Server
import ListExpansion.Proofs.Directory.Recording

namespace ListExpansion

set_option autoImplicit false

/-! ## Settings -/

/-- The same one binds, and gives a password either way. -/
structure Bind.SameButPassword (one other : Bind) : Prop where
  dn : one.dn = other.dn
  given : one.password ≠ ""
  givenToo : other.password ≠ ""

/-- The same settings of the directory, with binds that are the same but for the password. -/
structure LdapConfig.SameButPassword (one other : LdapConfig) : Prop where
  bind : ∃ mine theirs, one.bind = some mine ∧ other.bind = some theirs ∧
    mine.SameButPassword theirs
  rest : { one with bind := other.bind } = other

/-- The same settings but for the password of the bind. -/
structure Settings.SameButPassword (one other : Settings) : Prop where
  ldap : one.ldap.SameButPassword other.ldap
  rest : { one with ldap := other.ldap } = other

namespace Bind.SameButPassword

variable {one other : Bind} (same : one.SameButPassword other)

include same

theorem describe : one.describe = other.describe := by
  unfold Bind.describe
  rw [same.dn]

/-- A password that is there is not looked at. -/
theorem validate : one.validate = other.validate := by
  unfold Bind.validate
  simp only [same.dn, String.isEmpty_iff, same.given, same.givenToo]

end Bind.SameButPassword

namespace LdapConfig.SameButPassword

variable {one other : LdapConfig} (same : one.SameButPassword other)

include same

theorem describe_bind : one.bind.map Bind.describe = other.bind.map Bind.describe := by
  obtain ⟨mine, theirs, binds, bindsToo, alike⟩ := same.bind
  rw [binds, bindsToo, Option.map_some, Option.map_some, alike.describe]

theorem describe : one.describe = other.describe := by
  have bind := same.describe_bind
  rw [← same.rest] at bind ⊢
  unfold LdapConfig.describe
  rw [bind]

theorem validate : one.validate = other.validate := by
  obtain ⟨mine, theirs, binds, bindsToo, alike⟩ := same.bind
  rw [← same.rest]
  simp only [LdapConfig.validate, binds, bindsToo, alike.validate]

theorem host : one.host = other.host := by
  rw [← same.rest]

theorem connectSeconds : one.connectSeconds = other.connectSeconds := by
  rw [← same.rest]

theorem listQuery : one.listQuery = other.listQuery := by
  rw [← same.rest]

theorem accountQuery : one.accountQuery = other.accountQuery := by
  rw [← same.rest]

/-- Messages call both by the same name. -/
theorem dn : (Ldap.credentials one).1 = (Ldap.credentials other).1 := by
  obtain ⟨mine, theirs, binds, bindsToo, alike⟩ := same.bind
  simp only [Ldap.credentials, binds, bindsToo, alike.dn]

end LdapConfig.SameButPassword

namespace Settings.SameButPassword

variable {one other : Settings} (same : one.SameButPassword other)

include same

theorem describe : one.describe = other.describe := by
  have ldap := same.ldap.describe
  rw [← same.rest]
  unfold Settings.describe
  rw [ldap]

theorem validate : one.validate = other.validate := by
  have ldap := same.ldap.validate
  rw [← same.rest]
  unfold Settings.validate
  rw [ldap]

theorem socket : one.socket = other.socket := by
  rw [← same.rest]

theorem pidFile : one.pidFile = other.pidFile := by
  rw [← same.rest]

/-- What the command line sets, it sets for both. -/
theorem overriddenBy (overrides : CommandLine.Overrides) :
    (one.overriddenBy overrides).SameButPassword (other.overriddenBy overrides) := by
  have ldap := same.ldap
  rw [← same.rest] at ldap ⊢
  exact ⟨ldap, rfl⟩

end Settings.SameButPassword

/-! ## Clients -/

namespace Ldap

variable {κ ν : Type}

/-- The same answer, and related servers after it. -/
def SameAnswer {α : Type} (related : κ → ν → Prop) (one : α × κ) (other : α × ν) : Prop :=
  one.1 = other.1 ∧ related one.2 other.2

/-- Related servers answer the two clients alike, each to the bind with its own credentials, both
to the same searches and to the unbind; and the memory for what is found is the same. -/
structure Client.Alike (one : Client κ) (other : Client ν) (mine theirs : String × String)
    (related : κ → ν → Prop) : Prop where
  bind : ∀ {server serverToo}, related server serverToo →
    SameAnswer related (one.bind mine.1 mine.2 server) (other.bind theirs.1 theirs.2 serverToo)
  search : ∀ search {server serverToo}, related server serverToo →
    SameAnswer related (one.search search server) (other.search search serverToo)
  unbind : ∀ {server serverToo}, related server serverToo →
    SameAnswer related (one.unbind server) (other.unbind serverToo)
  memory : ∀ {server serverToo}, related server serverToo →
    one.memory server = other.memory serverToo

namespace Client.Alike

variable {one : Client κ} {other : Client ν} {mine theirs : String × String}
  {related : κ → ν → Prop} {server : κ} {serverToo : ν}

/-- No search through a directory tells related servers apart. -/
theorem simulates (alike : one.Alike other mine theirs related) :
    (LdapDirectory.asDirectory one).Simulates (LdapDirectory.asDirectory other)
      (SameAnswer related) := by
  rintro search ⟨directory, server⟩ ⟨_, serverToo⟩ ⟨rfl, start⟩
  obtain ⟨answer, next⟩ := alike.search search start
  simp only [LdapDirectory.asDirectory, LdapDirectory.search]
  split
  · exact ⟨congr (congrArg searchReply (alike.memory next)) answer, rfl, next⟩
  · exact ⟨rfl, rfl, start⟩

/-- What comes of reaching the directory does not tell with which password it was tried. -/
theorem connect {config configToo : LdapConfig} (same : config.SameButPassword configToo)
    (alike : one.Alike other (credentials config) (credentials configToo) related)
    (opening : Except ClientFailure Unit) (start : related server serverToo) :
    let reached := LdapDirectory.connect one config opening server
    let reachedToo := LdapDirectory.connect other configToo opening serverToo
    reached.1 = reachedToo.1 ∧ related reached.2.1 reachedToo.2.1 ∧
      reached.2.2 = reachedToo.2.2 := by
  have host := same.host
  have dn := same.dn
  have answer := alike.bind start
  unfold LdapDirectory.connect LdapDirectory.start
  cases opening with
  | error failure =>
      simp only [host]
      exact ⟨trivial, start, trivial⟩
  | ok opened =>
      revert answer
      simp only [host, dn]
      rcases one.bind _ _ server with ⟨outcome, after⟩
      rcases other.bind _ _ serverToo with ⟨_, afterToo⟩
      rintro ⟨⟨⟩, next⟩
      cases outcome with
      | error failure => exact ⟨rfl, next, rfl⟩
      | ok bound => exact ⟨rfl, next, rfl⟩

theorem disconnect (alike : one.Alike other mine theirs related) (directory : LdapDirectory)
    (start : related server serverToo) :
    let left := LdapDirectory.disconnect one directory server
    let leftToo := LdapDirectory.disconnect other directory serverToo
    left.1 = leftToo.1 ∧ left.2.1 = leftToo.2.1 ∧ related left.2.2.1 leftToo.2.2.1 ∧
      left.2.2.2 = leftToo.2.2.2 := by
  obtain ⟨answer, next⟩ := alike.unbind start
  unfold LdapDirectory.disconnect
  simp only [answer]
  split
  · exact ⟨rfl, rfl, next, rfl⟩
  · exact ⟨rfl, rfl, start, rfl⟩

end Client.Alike

/-! ## Scripted servers -/

/-- A request as it is without its password. -/
def Received.masked : Received → Received
  | .bind dn _ => .bind dn ""
  | request => request

namespace Server

/-- Servers that will answer the same and were sent the same, passwords apart. -/
structure Alike (one other : Server) : Prop where
  bindReply : one.bindReply = other.bindReply
  searchReplies : one.searchReplies = other.searchReplies
  hungUp : one.hungUp = other.hungUp
  received : one.received.map Received.masked = other.received.map Received.masked

variable {one other : Server}

theorem Alike.receive (alike : one.Alike other) {request requestToo : Received}
    (masked : request.masked = requestToo.masked) :
    (one.receive request).Alike (other.receive requestToo) where
  bindReply := alike.bindReply
  searchReplies := alike.searchReplies
  hungUp := alike.hungUp
  received := by
    simp only [Server.receive, List.map_append, alike.received, List.map_cons, masked]

/-- Scripted servers do not look at passwords. -/
theorem client_alike (dn password passwordToo : String) :
    client.Alike client (dn, password) (dn, passwordToo) Alike where
  bind {server serverToo} start := by
    have next : (server.receive (.bind dn password)).Alike
        (serverToo.receive (.bind dn passwordToo)) := start.receive rfl
    show SameAnswer Alike (Server.bind dn password server) (Server.bind dn passwordToo serverToo)
    unfold Server.bind
    rw [start.hungUp]
    split
    · exact ⟨rfl, start⟩
    · simp only [next.bindReply]
      split
      · exact ⟨rfl, rfl, next.searchReplies, rfl, next.received⟩
      · exact ⟨rfl, next⟩
  search search server serverToo start := by
    have next : { server.receive (.search search) with
          searchReplies := server.searchReplies.tail }.Alike
        { serverToo.receive (.search search) with
          searchReplies := serverToo.searchReplies.tail } :=
      ⟨start.bindReply, congrArg List.tail start.searchReplies, start.hungUp,
        (start.receive rfl).received⟩
    show SameAnswer Alike (Server.search search server) (Server.search search serverToo)
    unfold Server.search
    rw [start.hungUp]
    split
    · exact ⟨rfl, start⟩
    split
    · exact ⟨rfl, start⟩
    · simp only [start.searchReplies] at next ⊢
      split
      · exact ⟨rfl, next.bindReply, next.searchReplies, rfl, next.received⟩
      · exact ⟨rfl, next⟩
  unbind {server serverToo} start := by
    show SameAnswer Alike (Server.unbind server) (Server.unbind serverToo)
    unfold Server.unbind
    rw [start.hungUp]
    split
    · exact ⟨rfl, start⟩
    · exact ⟨rfl, start.receive rfl⟩
  memory _ := rfl

end Server

end Ldap

end ListExpansion
