/-
# ListExpansion.Proofs.Resolver.Stage -- the end of a transaction, stage by stage

`Stage.complete` is `Stage.step` again and again (`complete_step`), and an end of
transaction is its first step, `Resolver.leave`, followed by the stages of the session
that left the map, if one did (`onEndOfTransaction_first`).
-/
import ListExpansion.Resolver

namespace ListExpansion

set_option autoImplicit false

/-- What the mail server is told when a lookup failed. -/
def DirectoryError.verdict (error : DirectoryError) : Verdict :=
  if error.isResourceExhaustion then .temporaryFailure else .proceed

variable {σ : Type} (directory : Directory σ)

namespace Stage

theorem failed_settled (id : TransactionId) (session : Session) (error : DirectoryError) :
    (failed id session error).1 = .settled ⟨error.verdict, AddressSet.empty⟩ := by
  unfold failed DirectoryError.verdict
  split <;> rfl

variable (lookups : Lookups) (id : TransactionId) (state : σ)

@[simp] theorem complete_settled (resolution : Resolution) :
    (settled resolution).complete directory lookups id state = (resolution, state, []) := by
  rw [complete]

/-- To complete a stage is to take one step and complete what it leads to. -/
theorem complete_step (stage : Stage) :
    stage.complete directory lookups id state =
      let next := stage.step directory lookups id state
      let rest := next.1.complete directory lookups id next.2.1
      (rest.1, rest.2.1, next.2.2 ++ rest.2.2) := by
  cases stage with
  | settled resolution => simp [step]
  | listSearch session => rw [complete]
  | accountSearch session members => rw [complete]
  | finish session members owned => rw [complete]

/-- A property of all settled stages that every step carries back holds of every stage. -/
theorem induction_on_steps {motive : Stage → σ → Prop}
    (settled : ∀ resolution state, motive (.settled resolution) state)
    (step : ∀ stage state, motive (stage.step directory lookups id state).1
      (stage.step directory lookups id state).2.1 → motive stage state) (stage : Stage) :
    motive stage state := by
  induction left : stage.stepsLeft using Nat.strongRecOn generalizing stage state with
  | ind n ih =>
      subst left
      have shrinks := step_stepsLeft directory lookups id state stage
      cases stage with
      | settled resolution => exact settled resolution state
      | listSearch session => exact step _ _ (ih _ (by simp only [stepsLeft] at *; omega) _ _ rfl)
      | accountSearch session members =>
          exact step _ _ (ih _ (by simp only [stepsLeft] at *; omega) _ _ rfl)
      | finish session members owned =>
          exact step _ _ (ih _ (by simp only [stepsLeft] at *; omega) _ _ rfl)

/-- The stage that an end of transaction begins with. -/
def first : Option Session → Stage
  | some session => .listSearch session
  | none => .settled .unchanged

end Stage

namespace Resolver

variable {resolver : Resolver} {id : TransactionId}

/-- A session that leaves the map is resolved from the first stage on. -/
theorem onEndOfTransaction_handed {session : Session} (state : σ)
    (handed : (resolver.leave id).2 = some session) :
    resolver.onEndOfTransaction directory id state =
      let ended := (Stage.listSearch session).complete directory resolver.lookups id state
      (ended.1, (resolver.leave id).1, ended.2) := by
  have lookups : (resolver.leave id).1.lookups = resolver.lookups := rfl
  rw [onEndOfTransaction]
  split
  · next left => simp [left] at handed
  · next left =>
      simp only [left, Option.some.injEq] at handed lookups
      simp only [left, handed, lookups]

theorem onEndOfTransaction_idle (state : σ) (idle : (resolver.leave id).2 = none) :
    resolver.onEndOfTransaction directory id state =
      (.unchanged, (resolver.leave id).1, state, []) := by
  rw [onEndOfTransaction]
  split
  · next left => simp only [left]
  · next left => simp [left] at idle

/-- Whether or not a session leaves the map, an end of transaction completes its first
stage. -/
theorem onEndOfTransaction_first (resolver : Resolver) (id : TransactionId) (state : σ) :
    resolver.onEndOfTransaction directory id state =
      let ended := (Stage.first (resolver.leave id).2).complete directory resolver.lookups id state
      (ended.1, (resolver.leave id).1, ended.2) := by
  cases left : (resolver.leave id).2 with
  | none => rw [onEndOfTransaction_idle directory state left, Stage.first, Stage.complete_settled]
  | some session => exact onEndOfTransaction_handed directory state left

/-- The whole of an end of transaction leaves the map as its first step does. -/
theorem onEndOfTransaction_resolver (resolver : Resolver) (id : TransactionId) (state : σ) :
    (resolver.onEndOfTransaction directory id state).2.1 = (resolver.leave id).1 := by
  rw [onEndOfTransaction_first]

/-- What leaves the map is what it held. -/
theorem leave_handed {session? : Option Session}
    (held : resolver.transactions.state id = (session?.map .captured).getD .idle) :
    (resolver.leave id).2 = session? := by
  show (resolver.transactions.advance id .endOfTransaction).2 = session?
  rw [Transactions.advance, held]
  cases session? <;> rfl

end Resolver

end ListExpansion
