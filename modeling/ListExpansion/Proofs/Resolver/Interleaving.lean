/-
# ListExpansion.Proofs.Resolver.Interleaving -- the calls of many transactions at once

In an `Interleaving` every transaction has its own sequence of calls.  A turn of a
transaction is one call, or one step of the end of transaction that it is in the middle
of: leave the map, search the list, search the account, finish.  A schedule is any
sequence of turns, so any number of turns of others may come between two of one's own.

What a turn can do is said once: `turn_cases` names the ways it can go, with an equation
for each, and `turn_frame` what it leaves alone.
-/
import ListExpansion.Proofs.Directory.Recording
import ListExpansion.Proofs.Resolver.History
import Mathlib.Logic.Function.Basic

namespace ListExpansion.Resolver

set_option autoImplicit false

/-- One transaction's part in an interleaving: the calls it has still to make, the end of
transaction it is in the middle of, the answers it got and the searches made for it. -/
structure Thread where
  waiting : List Call
  stage : Option Stage
  answers : List Answer
  searches : List Search

namespace Thread

def start (calls : List Call) : Thread := ⟨calls, none, [], []⟩

def answered (thread : Thread) (waiting : List Call) (answer : Answer) : Thread :=
  { thread with waiting, answers := thread.answers ++ [answer] }

/-- The end of transaction came to `stage`; the last one is its answer. -/
def reached (thread : Thread) (searches : List Search) : Stage → Thread
  | .settled resolution =>
      { thread with
        stage := none
        answers := thread.answers ++ [.resolution resolution]
        searches }
  | stage => { thread with stage := some stage, searches }

@[simp] theorem reached_waiting (thread : Thread) (searches : List Search) (stage : Stage) :
    (thread.reached searches stage).waiting = thread.waiting := by
  cases stage <;> rfl

/-- A transaction is in the middle of a stage as long as there are steps left. -/
theorem reached_stage (thread : Thread) (searches : List Search) (stage : Stage) :
    (thread.reached searches stage).stage = if stage.stepsLeft = 0 then none else some stage := by
  cases stage <;> rfl

/-- How many turns a transaction needs at most: four for a call, of which the last ones may
be left of the call that it is in the middle of. -/
def turnsLeft (thread : Thread) : Nat :=
  4 * thread.waiting.length + (thread.stage.map Stage.stepsLeft).getD 0

end Thread

structure Interleaving (σ : Type) where
  resolver : Resolver
  directory : σ
  threads : TransactionId → Thread

namespace Interleaving

variable {σ : Type} (directory : Directory σ)

def start (lookups : Lookups) (directory : σ) (calls : TransactionId → List Call) :
    Interleaving σ :=
  ⟨.new lookups, directory, fun id => .start (calls id)⟩

/-- One turn of `id`: the next step of its end of transaction if it is in the middle of one,
else its next call, of which an end of transaction takes the first step only. -/
def turn (now : Interleaving σ) (id : TransactionId) : Interleaving σ :=
  let thread := now.threads id
  match thread.stage, thread.waiting with
  | some stage, _ =>
      let (stage, (state, searches), _) :=
        stage.step directory.recording now.resolver.lookups id (now.directory, thread.searches)
      { now with
        directory := state
        threads := Function.update now.threads id (thread.reached searches stage) }
  | none, [] => now
  | none, .endOfTransaction :: waiting =>
      match now.resolver.leave id with
      | (resolver, none) =>
          { now with
            resolver
            threads := Function.update now.threads id
              (thread.answered waiting (.resolution .unchanged)) }
      | (resolver, some session) =>
          { now with
            resolver
            threads := Function.update now.threads id
              { thread with waiting, stage := some (.listSearch session) } }
  | none, made :: waiting =>
      let (answer, resolver, _) :=
        now.resolver.call directory.recording id (now.directory, thread.searches) made
      { now with
        resolver
        threads := Function.update now.threads id (thread.answered waiting answer) }

/-- The interleaving after the turns of a schedule. -/
def run (now : Interleaving σ) (schedule : List TransactionId) : Interleaving σ :=
  schedule.foldl (turn directory) now

/-- All calls of `id` are made and answered. -/
def Finished (now : Interleaving σ) (id : TransactionId) : Prop :=
  (now.threads id).stage = none ∧ (now.threads id).waiting = []

/-! ## What a turn does -/

section Turn

variable {now : Interleaving σ} {id : TransactionId}

theorem turn_stage {stage : Stage} (there : (now.threads id).stage = some stage) :
    now.turn directory id =
      let next := stage.step directory.recording now.resolver.lookups id
        (now.directory, (now.threads id).searches)
      { now with
        directory := next.2.1.1
        threads := Function.update now.threads id
          ((now.threads id).reached next.2.1.2 next.1) } := by
  simp only [turn, there]

theorem turn_finished (done : now.Finished id) : now.turn directory id = now := by
  simp only [turn, done.1, done.2]

theorem turn_idle_end {waiting : List Call} (between : (now.threads id).stage = none)
    (next : (now.threads id).waiting = .endOfTransaction :: waiting)
    (idle : (now.resolver.leave id).2 = none) :
    now.turn directory id =
      { now with
        resolver := (now.resolver.leave id).1
        threads := Function.update now.threads id
          ((now.threads id).answered waiting (.resolution .unchanged)) } := by
  simp only [turn, between, next]
  split
  · next left => simp only [left]
  · next left => simp [left] at idle

theorem turn_leave {waiting : List Call} {session : Session}
    (between : (now.threads id).stage = none)
    (next : (now.threads id).waiting = .endOfTransaction :: waiting)
    (handed : (now.resolver.leave id).2 = some session) :
    now.turn directory id =
      { now with
        resolver := (now.resolver.leave id).1
        threads := Function.update now.threads id
          { now.threads id with waiting, stage := some (.listSearch session) } } := by
  simp only [turn, between, next]
  split
  · next left => simp [left] at handed
  · next left =>
      simp only [left, Option.some.injEq] at handed
      simp only [left, handed]

theorem turn_call {made : Call} {waiting : List Call}
    (between : (now.threads id).stage = none)
    (next : (now.threads id).waiting = made :: waiting) (whole : made ≠ .endOfTransaction) :
    now.turn directory id =
      let after := now.resolver.call directory.recording id
        (now.directory, (now.threads id).searches) made
      { now with
        resolver := after.2.1
        threads := Function.update now.threads id
          ((now.threads id).answered waiting after.1) } := by
  cases made with
  | endOfTransaction => exact absurd rfl whole
  | sender grants sender account => simp only [turn, between, next]
  | abort => simp only [turn, between, next]

/-- The ways that a turn can go. -/
theorem turn_cases (now : Interleaving σ) (id : TransactionId) :
    (∃ stage, (now.threads id).stage = some stage) ∨ now.Finished id ∨
      (now.threads id).stage = none ∧ ∃ made waiting,
        (now.threads id).waiting = made :: waiting ∧
          (made ≠ .endOfTransaction ∨ made = .endOfTransaction ∧
            ((now.resolver.leave id).2 = none ∨ ∃ session,
              (now.resolver.leave id).2 = some session)) := by
  cases there : (now.threads id).stage with
  | some stage => exact .inl ⟨stage, rfl⟩
  | none =>
      cases next : (now.threads id).waiting with
      | nil => exact .inr (.inl ⟨there, next⟩)
      | cons made waiting =>
          refine .inr (.inr ⟨rfl, made, waiting, rfl, ?_⟩)
          by_cases whole : made = .endOfTransaction
          · refine .inr ⟨whole, ?_⟩
            cases (now.resolver.leave id).2 with
            | none => exact .inl rfl
            | some session => exact .inr ⟨session, rfl⟩
          · exact .inl whole

/-- Whatever its turn is, a transaction writes its own thread only, and feeds the map one
event of its own at most. -/
theorem turn_frame (now : Interleaving σ) (id : TransactionId) :
    (∃ thread, (now.turn directory id).threads = Function.update now.threads id thread) ∧
      ((now.turn directory id).resolver = now.resolver ∨
        ∃ event, (now.turn directory id).resolver = (now.resolver.advance id event).1) := by
  rcases turn_cases now id with ⟨stage, there⟩ | done |
    ⟨between, made, waiting, next, whole | ⟨rfl, idle | ⟨session, handed⟩⟩⟩
  · rw [turn_stage directory there]
    exact ⟨⟨_, rfl⟩, .inl rfl⟩
  · rw [turn_finished directory done]
    exact ⟨⟨now.threads id, (Function.update_eq_self id now.threads).symm⟩, .inl rfl⟩
  · rw [turn_call directory between next whole]
    exact ⟨⟨_, rfl⟩, .inr ⟨made.event, call_resolver directory.recording now.resolver id _ made⟩⟩
  · rw [turn_idle_end directory between next idle]
    exact ⟨⟨_, rfl⟩, .inr ⟨.endOfTransaction, rfl⟩⟩
  · rw [turn_leave directory between next handed]
    exact ⟨⟨_, rfl⟩, .inr ⟨.endOfTransaction, rfl⟩⟩

end Turn

/-! ## The calls made so far -/

/-- Of its `calls` the transaction has made these, the end of transaction that it is in the
middle of included. -/
structure Made (calls : List Call) (id : TransactionId) (now : Interleaving σ)
    (made : List Call) : Prop where
  calls : made ++ (now.threads id).waiting = calls
  state : now.resolver.transactions.state id = TransactionState.idle.feed (made.map Call.event)
  middle : ∀ stage, (now.threads id).stage = some stage →
    made.getLast? = some .endOfTransaction ∧ 0 < stage.stepsLeft

section Made

variable {calls made : List Call} {now : Interleaving σ} {id : TransactionId}

theorem made_start (lookups : Lookups) (state : σ) (calls : TransactionId → List Call)
    (id : TransactionId) : (start lookups state calls).Made (calls id) id [] :=
  ⟨rfl, rfl, fun _ there => nomatch there⟩

/-- One more call, with what it means to the map. -/
theorem Made.state_call (sofar : now.Made calls id made) (next : Call) :
    (now.resolver.advance id next.event).1.transactions.state id =
      TransactionState.idle.feed ((made ++ [next]).map Call.event) := by
  have moved := now.resolver.transactions.state_advance_self id next.event
  rw [sofar.state] at moved
  simpa [TransactionState.feed, Resolver.advance] using moved

theorem made_own_turn (sofar : now.Made calls id made) :
    (∃ next, (now.turn directory id).Made calls id next) ∧
      ((now.turn directory id).threads id).turnsLeft ≤ (now.threads id).turnsLeft - 1 := by
  rcases turn_cases now id with ⟨stage, there⟩ | done |
    ⟨between, next, waiting, queue, whole | ⟨rfl, idle | ⟨session, handed⟩⟩⟩
  · rw [turn_stage directory there]
    obtain ⟨last, busy⟩ := sofar.middle stage there
    have nearer := stage.step_stepsLeft directory.recording now.resolver.lookups id
      (now.directory, (now.threads id).searches)
    refine ⟨⟨made, ?_, sofar.state, ?_⟩, ?_⟩
    · simpa using sofar.calls
    · intro reached
      simp only [Function.update_self, Thread.reached_stage]
      split
      · exact fun ended => nomatch ended
      · rintro ⟨⟩
        exact ⟨last, by omega⟩
    · simp only [Function.update_self, Thread.turnsLeft, Thread.reached_stage,
        Thread.reached_waiting, there]
      split
      · simp only [Option.map_none, Option.getD_none, Option.map_some, Option.getD_some]
        omega
      · simp only [Option.map_some, Option.getD_some]
        omega
  · rw [turn_finished directory done]
    refine ⟨⟨made, sofar⟩, ?_⟩
    simp [Thread.turnsLeft, done.1, done.2]
  · rw [turn_call directory between queue whole]
    dsimp only
    rw [call_resolver]
    refine ⟨⟨made ++ [next], ?_, sofar.state_call next, ?_⟩, ?_⟩
    · simpa [Thread.answered, queue] using sofar.calls
    · simp [Thread.answered, between]
    · simp [Thread.turnsLeft, Thread.answered, between, queue]
      omega
  · rw [turn_idle_end directory between queue idle]
    refine ⟨⟨made ++ [Call.endOfTransaction], ?_, sofar.state_call .endOfTransaction, ?_⟩, ?_⟩
    · simpa [Thread.answered, queue] using sofar.calls
    · simp [Thread.answered, between]
    · simp [Thread.turnsLeft, Thread.answered, between, queue]
      omega
  · rw [turn_leave directory between queue handed]
    refine ⟨⟨made ++ [Call.endOfTransaction], ?_, sofar.state_call .endOfTransaction, ?_⟩, ?_⟩
    · simpa [queue] using sofar.calls
    · simp [Stage.stepsLeft]
    · simp [Thread.turnsLeft, between, queue, Stage.stepsLeft]
      omega

theorem made_other_turn {stranger : TransactionId} (ne : id ≠ stranger)
    (sofar : now.Made calls id made) :
    (now.turn directory stranger).Made calls id made ∧
      (now.turn directory stranger).threads id = now.threads id := by
  obtain ⟨⟨thread, threads⟩, moved⟩ := turn_frame directory now stranger
  have untouched : (now.turn directory stranger).threads id = now.threads id := by
    rw [threads, Function.update_of_ne ne]
  refine ⟨⟨?_, ?_, ?_⟩, untouched⟩
  · rw [untouched]
    exact sofar.calls
  · rcases moved with kept | ⟨event, moved⟩
    · rw [kept]
      exact sofar.state
    · rw [moved]
      exact (now.resolver.transactions.state_advance_of_ne ne event).trans sofar.state
  · rw [untouched]
    exact sofar.middle

theorem made_run (schedule : List TransactionId) (sofar : now.Made calls id made) :
    (∃ next, (now.run directory schedule).Made calls id next) ∧
      ((now.run directory schedule).threads id).turnsLeft ≤
        (now.threads id).turnsLeft - schedule.count id := by
  induction schedule generalizing now made with
  | nil => exact ⟨⟨made, sofar⟩, Nat.le_refl _⟩
  | cons first schedule ih =>
      by_cases own : first = id
      · subst own
        obtain ⟨⟨next, onward⟩, fewer⟩ := made_own_turn directory sofar
        obtain ⟨final, left⟩ := ih onward
        refine ⟨final, Nat.le_trans left ?_⟩
        rw [List.count_cons_self]
        omega
      · obtain ⟨onward, untouched⟩ := made_other_turn directory (Ne.symm own) sofar
        obtain ⟨final, left⟩ := ih onward
        rw [List.count_cons_of_ne own, ← untouched]
        exact ⟨final, left⟩

theorem Made.finished (sofar : now.Made calls id made) (none_left : (now.threads id).turnsLeft = 0) :
    now.Finished id := by
  have waiting : 4 * (now.threads id).waiting.length = 0 := Nat.eq_zero_of_add_eq_zero_right none_left
  refine ⟨?_, List.eq_nil_of_length_eq_zero (by omega)⟩
  cases there : (now.threads id).stage with
  | none => rfl
  | some stage =>
      have busy := (sofar.middle stage there).2
      have done : stage.stepsLeft = 0 := by
        simpa [there] using Nat.eq_zero_of_add_eq_zero_left none_left
      omega

end Made

theorem wellKept_turns {now : Interleaving σ} (kept : now.resolver.transactions.WellKept)
    (schedule : List TransactionId) :
    (now.run directory schedule).resolver.transactions.WellKept := by
  induction schedule generalizing now with
  | nil => exact kept
  | cons id schedule ih =>
      refine ih ?_
      rcases (turn_frame directory now id).2 with same | ⟨event, moved⟩
      · rwa [same]
      · rw [moved]
        exact Transactions.wellKept_advance kept event

end Interleaving

end ListExpansion.Resolver
