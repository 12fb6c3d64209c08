/-
# ListExpansion.Proofs.Milter.Conversation -- what the mail server sees and the log tells

Whatever happens on any number of connections, verdicts, recipients and events depend on the
directory's replies alone.  Before two directories that no search tells apart
(`Directory.Simulates`) every command on every connection goes the same way
(`Conversation.step_simulated`), and so does their end (`Conversation.shutDown_simulated`).
-/
import ListExpansion.Milter.Conversation
import ListExpansion.Proofs.Resolver.Isolation
import Mathlib.Data.List.Forall2

namespace ListExpansion

set_option autoImplicit false

section Simulation

variable {σ τ κ : Type} {left : Directory σ} {right : Directory τ} {related : σ → τ → Prop}
  (simulates : left.Simulates right related)

/-! ## The log of an end of transaction -/

section

include simulates

theorem Stage.step_told (lookups : Lookups) (id : TransactionId) {s : σ} {t : τ}
    (start : related s t) (stage : Stage) :
    (stage.step left lookups id s).2.2 = (stage.step right lookups id t).2.2 := by
  cases stage with
  | listSearch session =>
      obtain ⟨reply, -⟩ := Directory.lookUp_simulated simulates start lookups.list session.sender
      simp only [step, reply]
      split
      · rfl
      · split <;> rfl
  | accountSearch session members =>
      obtain ⟨reply, -⟩ :=
        Directory.lookUp_simulated simulates start lookups.account session.account
      simp only [step, reply]
      split <;> rfl
  | finish session members owned => rfl
  | settled resolution => rfl

theorem Stage.complete_told (lookups : Lookups) (id : TransactionId) (stage : Stage) {s : σ}
    {t : τ} (start : related s t) :
    (stage.complete left lookups id s).2.2 = (stage.complete right lookups id t).2.2 := by
  revert t
  refine Stage.induction_on_steps left lookups id s (motive := fun stage s => ∀ {t}, related s t →
    (stage.complete left lookups id s).2.2 = (stage.complete right lookups id t).2.2) ?_ ?_ stage
  · intro resolution s t start
    rw [complete_settled, complete_settled]
  · intro stage s rest t start
    obtain ⟨same, next⟩ := Stage.step_simulated simulates lookups id start stage
    have told := Stage.step_told simulates lookups id start stage
    have onward := rest next
    rw [same] at onward
    rw [complete_step left, complete_step right]
    dsimp only
    rw [same, told, onward]

theorem Resolver.onEndOfTransaction_simulated (resolver : Resolver) (id : TransactionId) {s : σ}
    {t : τ} (start : related s t) :
    let one := resolver.onEndOfTransaction left id s
    let other := resolver.onEndOfTransaction right id t
    one.1 = other.1 ∧ one.2.1 = other.2.1 ∧ related one.2.2.1 other.2.2.1 ∧
      one.2.2.2 = other.2.2.2 := by
  simp only [onEndOfTransaction_first]
  obtain ⟨ended, next⟩ := Stage.complete_simulated simulates resolver.lookups id
    (.first (resolver.leave id).2) start
  exact ⟨ended, trivial, next, Stage.complete_told simulates resolver.lookups id _ start⟩

end

/-! ## The filter -/

/-- Two filters that differ in the directory's state alone, and not so that it shows. -/
structure Filter.Alike (related : σ → τ → Prop) (one : Filter σ) (other : Filter τ) : Prop where
  resolver : one.resolver = other.resolver
  issued : one.issued = other.issued
  directory : related one.directory other.directory

namespace Filter

variable {one : Filter σ} {other : Filter τ}

theorem identify_alike (alike : Alike related one other) (transaction : Option TransactionId) :
    (one.identify transaction).1 = (other.identify transaction).1 ∧
      Alike related (one.identify transaction).2 (other.identify transaction).2 := by
  cases transaction with
  | some id => exact ⟨rfl, alike⟩
  | none =>
      exact ⟨congrArg TransactionId.mk alike.issued, alike.resolver,
        congrArg (· + 1) alike.issued, alike.directory⟩

theorem onMail_simulated (alike : Alike related one other) (grants : CapturedPart → Bool)
    (transaction : Option TransactionId) (arguments : List Bytes) (account : Option Bytes) :
    let ended := one.onMail grants transaction arguments account
    let endedToo := other.onMail grants transaction arguments account
    ended.1 = endedToo.1 ∧ ended.2.1 = endedToo.2.1 ∧ Alike related ended.2.2.1 endedToo.2.2.1 ∧
      ended.2.2.2 = endedToo.2.2.2 := by
  obtain ⟨id, named⟩ := identify_alike alike transaction
  simp only [onMail, id, named.resolver]
  exact ⟨trivial, trivial, ⟨rfl, named.issued, named.directory⟩, trivial⟩

include simulates in
theorem onEndOfMessage_simulated (alike : Alike related one other) (sink : Sink κ)
    (transaction : Option TransactionId) (server : κ) :
    let ended := one.onEndOfMessage left sink transaction server
    let endedToo := other.onEndOfMessage right sink transaction server
    ended.1 = endedToo.1 ∧ ended.2.1 = endedToo.2.1 ∧ Alike related ended.2.2.1 endedToo.2.2.1 ∧
      ended.2.2.2 = endedToo.2.2.2 := by
  cases transaction with
  | none => exact ⟨rfl, rfl, alike, rfl⟩
  | some id =>
      obtain ⟨resolution, resolver, next, events⟩ :=
        Resolver.onEndOfTransaction_simulated simulates other.resolver id alike.directory
      simp only [onEndOfMessage, alike.resolver, resolution, resolver, events]
      exact ⟨trivial, trivial, ⟨rfl, alike.issued, next⟩, trivial⟩

theorem onDiscard_simulated (alike : Alike related one other)
    (transaction : Option TransactionId) :
    Alike related (one.onDiscard transaction).2.1 (other.onDiscard transaction).2.1 ∧
      (one.onDiscard transaction).2.2 = (other.onDiscard transaction).2.2 := by
  cases transaction with
  | none => exact ⟨alike, rfl⟩
  | some id =>
      refine ⟨⟨?_, alike.issued, alike.directory⟩, ?_⟩
      · exact congrArg (fun resolver => (resolver.onAbort id).1) alike.resolver
      · exact congrArg (fun resolver => (resolver.onAbort id).2) alike.resolver

end Filter

/-! ## Conversations -/

/-- The same connections, and filters that are alike. -/
structure Conversation.Alike (related : σ → τ → Prop) (one : Conversation σ)
    (other : Conversation τ) : Prop where
  filter : Filter.Alike related one.filter other.filter
  connections : one.connections = other.connections

namespace Conversation

variable {one : Conversation σ} {other : Conversation τ}

include simulates in
theorem step_simulated (alike : Alike related one other) (label : String) (command : Command) :
    let ended := one.step left label command
    let endedToo := other.step right label command
    ended.1 = endedToo.1 ∧ Alike related ended.2.1 endedToo.2.1 ∧ ended.2.2 = endedToo.2.2 := by
  have same := alike.connections
  cases command with
  | mail arguments account =>
      obtain ⟨verdict, id, next, events⟩ := Filter.onMail_simulated alike.filter (fun _ => true)
        ((other.connections.lookup label).getD .fresh).transaction arguments account
      simp only [step, updated, closed, same, verdict, id, events]
      exact ⟨trivial, ⟨next, rfl⟩, trivial⟩
  | endOfMessage =>
      obtain ⟨verdict, taken, next, events⟩ := Filter.onEndOfMessage_simulated simulates alike.filter
        (peer true) ((other.connections.lookup label).getD .fresh).transaction []
      simp only [step, updated, closed, same, verdict, taken, events]
      exact ⟨trivial, ⟨next, rfl⟩, trivial⟩
  | endOfMessageUnheard =>
      obtain ⟨-, -, next, events⟩ := Filter.onEndOfMessage_simulated simulates alike.filter
        (peer false) ((other.connections.lookup label).getD .fresh).transaction []
      obtain ⟨last, closing⟩ := Filter.onDiscard_simulated next
        ((other.connections.lookup label).getD .fresh).transaction
      simp only [step, closed, same, events, closing]
      exact ⟨trivial, ⟨last, rfl⟩, trivial⟩
  | abort =>
      obtain ⟨next, events⟩ := Filter.onDiscard_simulated alike.filter
        ((other.connections.lookup label).getD .fresh).transaction
      simp only [step, updated, closed, same, events]
      exact ⟨trivial, ⟨next, rfl⟩, trivial⟩
  | close =>
      obtain ⟨next, events⟩ := Filter.onDiscard_simulated alike.filter
        ((other.connections.lookup label).getD .fresh).transaction
      simp only [step, closed, same, events]
      exact ⟨trivial, ⟨next, rfl⟩, trivial⟩

theorem hangUp_simulated {filter : Filter σ} {filterToo : Filter τ}
    (alike : Filter.Alike related filter filterToo) (connection : Connection) :
    Filter.Alike related (hangUp filter connection).1 (hangUp filterToo connection).1 ∧
      (hangUp filter connection).2 = (hangUp filterToo connection).2 := by
  obtain ⟨next, events⟩ := Filter.onDiscard_simulated alike connection.transaction
  cases underWay : connection.underWay with
  | false =>
      simp only [hangUp, underWay, Bool.false_eq_true, if_false]
      exact ⟨next, events⟩
  | true =>
      obtain ⟨last, closing⟩ := Filter.onDiscard_simulated next connection.transaction
      simp only [hangUp, underWay, if_true, events, closing]
      exact ⟨last, trivial⟩

theorem shutDown_simulated (alike : Alike related one other) :
    Filter.Alike related one.shutDown.1 other.shutDown.1 ∧ one.shutDown.2 = other.shutDown.2 := by
  let same (ended : Filter σ × List Event) (endedToo : Filter τ × List Event) : Prop :=
    Filter.Alike related ended.1 endedToo.1 ∧ ended.2 = endedToo.2
  unfold shutDown
  rw [alike.connections]
  refine List.rel_foldl (P := same) (R := Eq) ?_ ⟨alike.filter, rfl⟩ (List.forall₂_refl _)
  rintro ⟨filter, events⟩ ⟨filterToo, eventsToo⟩ ⟨soFar, told⟩ ⟨label, connection⟩ _ rfl
  obtain ⟨next, more⟩ := hangUp_simulated soFar connection
  exact ⟨next, congrArg₂ (· ++ ·) told more⟩

end Conversation

end Simulation

end ListExpansion
