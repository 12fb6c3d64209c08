/-
# ListExpansion.Proofs.Resolver.Isolation -- transactions do not notice each other

The argument is a simulation.  What a turn does depends on one's own entry of the map and
on the directory's answers (`call_simulated`, `own_turn`), and no turn of another changes
the former (`other_turn`).  Two interleavings that agree on one transaction
(`Interleaving.Alike`) therefore go on agreeing when only one of them gives the others
their turns.

That an end of transaction in steps comes to what it comes to in one piece is a matter of
one transaction again: its own turns do not change its `Interleaving.outcome`.
-/
import ListExpansion.Proofs.Resolver.Expansion
import ListExpansion.Proofs.Resolver.Interleaving

namespace ListExpansion

set_option autoImplicit false

section Simulation

variable {σ τ : Type} {left : Directory σ} {right : Directory τ} {related : σ → τ → Prop}
  (simulates : left.Simulates right related)

include simulates

/-! ## Stages and calls before directories that are told apart by no search -/

theorem Stage.step_simulated (lookups : Lookups) (id : TransactionId) {s : σ} {t : τ}
    (start : related s t) (stage : Stage) :
    (stage.step left lookups id s).1 = (stage.step right lookups id t).1 ∧
      related (stage.step left lookups id s).2.1 (stage.step right lookups id t).2.1 := by
  cases stage with
  | listSearch session =>
      obtain ⟨reply, next⟩ :=
        Directory.lookUp_simulated simulates start lookups.list session.sender
      simp only [step, reply]
      split
      · exact ⟨rfl, next⟩
      · split
        · exact ⟨rfl, next⟩
        · exact ⟨rfl, next⟩
  | accountSearch session members =>
      obtain ⟨reply, next⟩ :=
        Directory.lookUp_simulated simulates start lookups.account session.account
      simp only [step, reply]
      split
      · exact ⟨rfl, next⟩
      · exact ⟨rfl, next⟩
  | finish session members owned => exact ⟨rfl, start⟩
  | settled resolution => exact ⟨rfl, start⟩

theorem Stage.complete_simulated (lookups : Lookups) (id : TransactionId) (stage : Stage)
    {s : σ} {t : τ} (start : related s t) :
    (stage.complete left lookups id s).1 = (stage.complete right lookups id t).1 ∧
      related (stage.complete left lookups id s).2.1 (stage.complete right lookups id t).2.1 := by
  revert t
  refine Stage.induction_on_steps left lookups id s (motive := fun stage s => ∀ {t},
    related s t → (stage.complete left lookups id s).1 = (stage.complete right lookups id t).1 ∧
      related (stage.complete left lookups id s).2.1 (stage.complete right lookups id t).2.1)
    ?_ ?_ stage
  · intro resolution s t start
    rw [complete_settled, complete_settled]
    exact ⟨rfl, start⟩
  · intro stage s rest t start
    obtain ⟨same, next⟩ := Stage.step_simulated simulates lookups id start stage
    have onward := rest next
    rw [same] at onward
    rw [complete_step left, complete_step right]
    dsimp only
    rw [same]
    exact onward

namespace Resolver

/-- The two resolvers look the same to `id`. -/
structure SameFor (id : TransactionId) (one other : Resolver) : Prop where
  lookups : one.lookups = other.lookups
  state : one.transactions.state id = other.transactions.state id

omit simulates in
theorem SameFor.advance {id : TransactionId} {one other : Resolver} (same : SameFor id one other)
    (event : TransactionEvent) :
    SameFor id (one.advance id event).1 (other.advance id event).1 ∧
      (one.advance id event).2 = (other.advance id event).2 := by
  refine ⟨⟨same.lookups, ?_⟩, ?_⟩
  · have moved := one.transactions.state_advance_self id event
    have movedToo := other.transactions.state_advance_self id event
    rw [same.state] at moved
    exact moved.trans movedToo.symm
  · show (one.transactions.advance id event).2 = (other.transactions.advance id event).2
    simp only [Transactions.advance, same.state]

omit simulates in
/-- The verdict on a sender is about the sender alone. -/
theorem onSender_verdict (grants : CapturedPart → Bool) (one other : Resolver)
    (id : TransactionId) (sender : Bytes) (account : Option Bytes) :
    (one.onSender grants id sender account).1 = (other.onSender grants id sender account).1 := by
  simp only [onSender]
  cases authenticated? account with
  | none => rfl
  | some account =>
      by_cases null : (stripAngleBrackets sender).isEmpty = true
      · simp only [null, if_true]
      · simp only [null, Bool.false_eq_true, if_false]
        cases Session.capture? grants sender account <;> rfl

/-- A call sees one entry of the map and the directory's answers, and no more. -/
theorem call_simulated {id : TransactionId} {one other : Resolver} (same : SameFor id one other)
    {s : σ} {t : τ} (start : related s t) (made : Call) :
    (one.call left id s made).1 = (other.call right id t made).1 ∧
      SameFor id (one.call left id s made).2.1 (other.call right id t made).2.1 ∧
      related (one.call left id s made).2.2 (other.call right id t made).2.2 := by
  have moved : SameFor id (one.call left id s made).2.1 (other.call right id t made).2.1 := by
    rw [call_resolver, call_resolver]
    exact (same.advance made.event).1
  cases made with
  | sender grants sender account =>
      refine ⟨?_, moved, start⟩
      exact congrArg Answer.verdict (onSender_verdict grants one other id sender account)
  | abort => exact ⟨rfl, moved, start⟩
  | endOfTransaction =>
      have handed : (one.leave id).2 = (other.leave id).2 := (same.advance .endOfTransaction).2
      obtain ⟨ended, next⟩ :=
        Stage.complete_simulated simulates other.lookups id (.first (other.leave id).2) start
      simp only [call, onEndOfTransaction_first, handed, same.lookups] at moved ⊢
      exact ⟨congrArg Answer.resolution ended, moved, next⟩

theorem run_simulated {id : TransactionId} (calls : List Call) {one other : Resolver}
    (same : SameFor id one other) {s : σ} {t : τ} (start : related s t) :
    (one.run left s (calls.map (id, ·))).1 = (other.run right t (calls.map (id, ·))).1 ∧
      related (one.run left s (calls.map (id, ·))).2.2
        (other.run right t (calls.map (id, ·))).2.2 := by
  induction calls generalizing one other s t with
  | nil => exact ⟨rfl, start⟩
  | cons made rest ih =>
      obtain ⟨answer, sameNext, next⟩ := call_simulated simulates same start made
      obtain ⟨answers, final⟩ := ih sameNext next
      exact ⟨congrArg₂ List.cons answer answers, final⟩

end Resolver

end Simulation

namespace Resolver.Interleaving

variable {σ : Type} (directory : Directory σ)

theorem turn_steady {now : Interleaving σ} {id : TransactionId} {answer : Search → Reply} (steady : directory.Steady now.directory answer) :
    directory.Steady (now.turn directory id).directory answer := by
  rcases turn_cases now id with ⟨stage, there⟩ | done |
    ⟨between, made, waiting, next, whole | ⟨rfl, idle | ⟨session, handed⟩⟩⟩
  · rw [turn_stage directory there]
    have alike : directory.AnswersAlike answer (now.directory, (now.threads id).searches)
        (now.directory, (now.threads id).searches) := ⟨steady, steady, rfl⟩
    exact (Stage.step_simulated (directory.recording_simulates answer) now.resolver.lookups id
      alike stage).2.1
  · rwa [turn_finished directory done]
  · rwa [turn_call directory between next whole]
  · rwa [turn_idle_end directory between next idle]
  · rwa [turn_leave directory between next handed]

/-! ## Two interleavings that agree on one transaction -/

/-- The two agree on `id`, and their directories answer alike from now on. -/
structure Alike (answer : Search → Reply) (id : TransactionId) (one other : Interleaving σ) :
    Prop where
  same : SameFor id one.resolver other.resolver
  thread : one.threads id = other.threads id
  steady : directory.Steady one.directory answer
  steadyToo : directory.Steady other.directory answer

section Alike

variable {directory} {answer : Search → Reply} {id : TransactionId} {one other : Interleaving σ}

theorem Alike.answersAlike (alike : Alike directory answer id one other) :
    directory.AnswersAlike answer (one.directory, (one.threads id).searches)
      (other.directory, (other.threads id).searches) :=
  ⟨alike.steady, alike.steadyToo, congrArg Thread.searches alike.thread⟩

/-- Another's turn changes nothing for `id`. -/
theorem other_turn {stranger : TransactionId} (ne : id ≠ stranger)
    (alike : Alike directory answer id one other) :
    Alike directory answer id (one.turn directory stranger) other := by
  obtain ⟨⟨thread, threads⟩, moved⟩ := turn_frame directory one stranger
  refine ⟨?_, ?_, turn_steady directory alike.steady, alike.steadyToo⟩
  · rcases moved with kept | ⟨event, moved⟩
    · rw [kept]
      exact alike.same
    · rw [moved]
      have untouched := one.resolver.transactions.state_advance_of_ne ne event
      exact ⟨alike.same.lookups, untouched.trans alike.same.state⟩
  · rw [threads, Function.update_of_ne ne]
    exact alike.thread

/-- One's own turn goes the same way in both. -/
theorem own_turn (alike : Alike directory answer id one other) :
    Alike directory answer id (one.turn directory id) (other.turn directory id) := by
  have same := alike.same
  have thread := alike.thread
  have handedAlike : (one.resolver.leave id).2 = (other.resolver.leave id).2 :=
    (same.advance .endOfTransaction).2
  have leaves : SameFor id (one.resolver.leave id).1 (other.resolver.leave id).1 :=
    (same.advance .endOfTransaction).1
  suffices moved : SameFor id (one.turn directory id).resolver (other.turn directory id).resolver ∧
      (one.turn directory id).threads id = (other.turn directory id).threads id from
    ⟨moved.1, moved.2, turn_steady directory alike.steady, turn_steady directory alike.steadyToo⟩
  rcases turn_cases one id with ⟨stage, there⟩ | done |
    ⟨between, made, waiting, next, whole | ⟨rfl, idle | ⟨session, handed⟩⟩⟩
  · have thereToo : (other.threads id).stage = some stage := by rw [← thread, there]
    have stepped := Stage.step_simulated (directory.recording_simulates answer)
      other.resolver.lookups id alike.answersAlike stage
    obtain ⟨reached, -, -, record⟩ := stepped
    rw [turn_stage directory there, turn_stage directory thereToo]
    refine ⟨same, ?_⟩
    simp only [Function.update_self, same.lookups]
    rw [reached, record, thread]
  · have doneToo : other.Finished id := by
      rw [Finished, ← thread]
      exact done
    rw [turn_finished directory done, turn_finished directory doneToo]
    exact ⟨same, thread⟩
  · rw [turn_call directory between next whole]
    rw [thread] at between next
    rw [turn_call directory between next whole]
    obtain ⟨answered, moved, -⟩ := call_simulated (directory.recording_simulates answer) same
      alike.answersAlike made
    refine ⟨moved, ?_⟩
    simp only [Function.update_self]
    rw [answered, thread]
  · rw [turn_idle_end directory between next idle]
    rw [thread] at between next
    rw [turn_idle_end directory between next (handedAlike.symm.trans idle)]
    refine ⟨leaves, ?_⟩
    simp only [Function.update_self]
    rw [thread]
  · rw [turn_leave directory between next handed]
    rw [thread] at between next
    rw [turn_leave directory between next (handedAlike.symm.trans handed)]
    refine ⟨leaves, ?_⟩
    simp only [Function.update_self]
    rw [thread]

theorem own_turns (schedule : List TransactionId) (alike : Alike directory answer id one other) :
    Alike directory answer id (one.run directory schedule)
      (other.run directory (schedule.filter (· = id))) := by
  induction schedule generalizing one other with
  | nil => exact alike
  | cons next schedule ih =>
      by_cases own : next = id
      · subst own
        rw [List.filter_cons_of_pos (by simp)]
        exact ih (own_turn alike)
      · rw [List.filter_cons_of_neg (by simpa using own)]
        exact ih (other_turn (Ne.symm own) alike)

end Alike

/-! ## What a transaction comes to -/

/-- The answers and searches of `id` when the rest of its calls is made in one piece each,
with no turns of others in between. -/
def outcome (now : Interleaving σ) (id : TransactionId) : List Answer × List Search :=
  let thread := now.threads id
  match thread.stage with
  | none =>
      let (answers, _, _, searches) := now.resolver.run directory.recording
        (now.directory, thread.searches) (thread.waiting.map (id, ·))
      (thread.answers ++ answers, searches)
  | some stage =>
      let (resolution, state, _) := stage.complete directory.recording now.resolver.lookups id
        (now.directory, thread.searches)
      let (answers, _, _, searches) := now.resolver.run directory.recording state
        (thread.waiting.map (id, ·))
      (thread.answers ++ .resolution resolution :: answers, searches)

section Outcome

variable {directory} {now : Interleaving σ} {id : TransactionId}

theorem outcome_between (between : (now.threads id).stage = none) :
    now.outcome directory id =
      let rest := now.resolver.run directory.recording
        (now.directory, (now.threads id).searches) ((now.threads id).waiting.map (id, ·))
      ((now.threads id).answers ++ rest.1, rest.2.2.2) := by
  simp only [outcome, between]

theorem outcome_stage {stage : Stage} (there : (now.threads id).stage = some stage) :
    now.outcome directory id =
      let ended := stage.complete directory.recording now.resolver.lookups id
        (now.directory, (now.threads id).searches)
      let rest := now.resolver.run directory.recording ended.2.1
        ((now.threads id).waiting.map (id, ·))
      ((now.threads id).answers ++ .resolution ended.1 :: rest.1, rest.2.2.2) := by
  simp only [outcome, there]

theorem outcome_finished (done : now.Finished id) :
    now.outcome directory id = ((now.threads id).answers, (now.threads id).searches) := by
  simp only [outcome_between done.1, done.2, List.map_nil, Resolver.run, List.append_nil]

/-- Whether the stage that an end of transaction came to is its last or not, what is to
come is the completion of that stage. -/
theorem outcome_reached (state : σ) (searches : List Search) (stage : Stage) :
    ({ now with
        directory := state
        threads := Function.update now.threads id
          ((now.threads id).reached searches stage) } : Interleaving σ).outcome directory id =
      let ended := stage.complete directory.recording now.resolver.lookups id (state, searches)
      let rest := now.resolver.run directory.recording ended.2.1
        ((now.threads id).waiting.map (id, ·))
      ((now.threads id).answers ++ .resolution ended.1 :: rest.1, rest.2.2.2) := by
  cases stage with
  | settled resolution =>
      rw [outcome_between (by simp [Thread.reached])]
      simp [Thread.reached]
  | listSearch session => simp [outcome, Thread.reached]
  | accountSearch session members => simp [outcome, Thread.reached]
  | finish session members owned => simp [outcome, Thread.reached]

/-- One's own turns do not change what one comes to. -/
theorem outcome_own_turn (now : Interleaving σ) (id : TransactionId) :
    (now.turn directory id).outcome directory id = now.outcome directory id := by
  rcases turn_cases now id with ⟨stage, there⟩ | done |
    ⟨between, made, waiting, next, whole | ⟨rfl, idle | ⟨session, handed⟩⟩⟩
  · rw [turn_stage directory there, outcome_stage there, Stage.complete_step]
    exact outcome_reached _ _ _
  · rw [turn_finished directory done]
  · rw [turn_call directory between next whole, outcome_between between,
      outcome_between (by simpa [Thread.answered] using between), next]
    have still : (now.resolver.call directory.recording id
        (now.directory, (now.threads id).searches) made).2.2 =
          (now.directory, (now.threads id).searches) := by
      cases made with
      | endOfTransaction => exact absurd rfl whole
      | sender grants sender account => rfl
      | abort => rfl
    simp [Thread.answered, Resolver.run, still]
  · rw [turn_idle_end directory between next idle, outcome_between between,
      outcome_between (by simpa [Thread.answered] using between), next]
    have ended := onEndOfTransaction_idle directory.recording
      (now.directory, (now.threads id).searches) idle
    simp [Thread.answered, Resolver.run, Resolver.call, ended]
  · rw [turn_leave directory between next handed, outcome_between between,
      outcome_stage (congrArg Thread.stage (Function.update_self id _ now.threads)), next]
    have ended := onEndOfTransaction_handed directory.recording
      (now.directory, (now.threads id).searches) handed
    have lookups : (now.resolver.leave id).1.lookups = now.resolver.lookups := rfl
    simp [Resolver.run, Resolver.call, ended, lookups]

theorem outcome_alike {answer : Search → Reply} {one other : Interleaving σ}
    (alike : Alike directory answer id one other) :
    one.outcome directory id = other.outcome directory id := by
  have simulates := directory.recording_simulates answer
  have thread := alike.thread
  have start := alike.answersAlike
  cases there : (other.threads id).stage with
  | none =>
      obtain ⟨answers, -, -, searches⟩ :=
        run_simulated simulates (other.threads id).waiting alike.same start
      rw [outcome_between there, outcome_between (by rw [thread, there])]
      dsimp only
      rw [thread] at answers searches ⊢
      rw [answers, searches]
  | some stage =>
      obtain ⟨resolution, onward⟩ :=
        Stage.complete_simulated simulates other.resolver.lookups id stage start
      obtain ⟨answers, -, -, searches⟩ :=
        run_simulated simulates (other.threads id).waiting alike.same onward
      rw [outcome_stage there, outcome_stage (by rw [thread, there])]
      dsimp only
      rw [thread] at answers searches resolution ⊢
      rw [alike.same.lookups, resolution, answers, searches]

/-- No turn changes what anybody comes to. -/
theorem outcome_run {answer : Search → Reply} (steady : directory.Steady now.directory answer)
    (schedule : List TransactionId) :
    (now.run directory schedule).outcome directory id = now.outcome directory id := by
  induction schedule generalizing now with
  | nil => rfl
  | cons next schedule ih =>
      refine (ih (turn_steady directory steady)).trans ?_
      by_cases own : id = next
      · subst own
        exact outcome_own_turn now id
      · exact outcome_alike (other_turn own ⟨⟨rfl, rfl⟩, rfl, steady, steady⟩)

end Outcome

/-- **No transaction notices the others.**  Whatever turns of other transactions come
between its own, its answers and searches are those that the same turns of its own get
alone, and once its calls are all answered, as they are after four turns for each, they are
those of making the calls one after another, each in one piece.  The map shows of it the
last call it made so far, so that from the first step of an end of transaction on no
session is left there. -/
theorem isolated {answer : Search → Reply} (lookups : Lookups) (state : σ)
    (steady : directory.Steady state answer) (calls : TransactionId → List Call)
    (schedule : List TransactionId) (id : TransactionId) :
    let world := (start lookups state calls).run directory schedule
    let alone := (start lookups state (Function.update (fun _ => []) id (calls id))).run directory
      (schedule.filter (· = id))
    let whole := (new lookups).run directory.recording (state, []) ((calls id).map (id, ·))
    world.threads id = alone.threads id ∧
    (world.Finished id →
      (world.threads id).answers = whole.1 ∧ (world.threads id).searches = whole.2.2.2) ∧
    (4 * (calls id).length ≤ schedule.count id → world.Finished id) ∧
    ((world.threads id).stage.isSome →
      ∀ held, (id, held) ∉ world.resolver.transactions.entries) ∧
    (∃ made, made ++ (world.threads id).waiting = calls id ∧
      ((world.threads id).stage.isSome → made.getLast? = some .endOfTransaction) ∧
      ∀ held, (id, held) ∈ world.resolver.transactions.entries ↔
        ∃ call session, made.getLast? = some call ∧ call.Captures session ∧
          held = .captured session) := by
  intro world alone whole
  have begins : Alike directory answer id (start lookups state calls)
      (start lookups state (Function.update (fun _ => []) id (calls id))) :=
    ⟨⟨rfl, rfl⟩, by simp [start], steady, steady⟩
  have both : Alike directory answer id world alone := own_turns schedule begins
  have comes : world.outcome directory id = (whole.1, whole.2.2.2) :=
    (outcome_run steady schedule).trans (by rw [outcome_between rfl]; rfl)
  obtain ⟨⟨made, sofar⟩, fewer⟩ :=
    made_run directory schedule (made_start lookups state calls id)
  have kept : world.resolver.transactions.WellKept :=
    wellKept_turns directory Transactions.wellKept_empty schedule
  have ending (middle : (world.threads id).stage.isSome) :
      made.getLast? = some .endOfTransaction := by
    obtain ⟨stage, there⟩ := Option.isSome_iff_exists.1 middle
    exact (sofar.middle stage there).1
  have entries := mem_entries_of_calls kept sofar.state
  refine ⟨both.thread, ?_, ?_, ?_, made, sofar.calls, ending, entries⟩
  · intro done
    rw [outcome_finished done] at comes
    exact Prod.mk.inj comes
  · intro enough
    refine sofar.finished (Nat.eq_zero_of_le_zero (Nat.le_trans fewer ?_))
    have needed : ((start lookups state calls).threads id).turnsLeft = 4 * (calls id).length := rfl
    omega
  · intro middle held member
    obtain ⟨call, session, last, captures, -⟩ := (entries held).1 member
    obtain ⟨_, _, _, rfl, -⟩ := captures
    rw [ending middle] at last
    cases last

end Resolver.Interleaving

namespace Resolver.Example

/-- One of the two ends what it captured, the other has a null sender and aborts. -/
def calls (id : TransactionId) : List Call :=
  if id = ⟨0⟩ then
    [.sender (fun _ => true) session.sender (some session.account), .endOfTransaction]
  else
    [.sender (fun _ => true) [0x3C, 0x3E] (some session.account), .abort, .endOfTransaction]

/-- A turn of the second comes between the capture and its end, and one between the two
searches. -/
def turns : List TransactionId := [⟨1⟩, ⟨0⟩, ⟨1⟩, ⟨0⟩, ⟨0⟩, ⟨1⟩, ⟨0⟩, ⟨0⟩]

theorem isolated_team :
    let world := (Interleaving.start lookups directory calls).run PreparedDirectory.asDirectory turns
    let whole := (new lookups).run PreparedDirectory.asDirectory.recording (directory, [])
      ((calls ⟨0⟩).map (⟨0⟩, ·))
    PreparedDirectory.asDirectory.Steady directory directory.answerTo ∧ world.Finished ⟨0⟩ ∧
      (world.threads ⟨0⟩).answers = whole.1 ∧ (world.threads ⟨0⟩).searches = whole.2.2.2 := by
  intro world whole
  have steady := Directory.steady_prepared directory
  have done : world.Finished ⟨0⟩ := ⟨rfl, rfl⟩
  obtain ⟨-, same, -⟩ :=
    Interleaving.isolated PreparedDirectory.asDirectory lookups directory steady calls turns ⟨0⟩
  exact ⟨steady, done, same done⟩

end Resolver.Example

end ListExpansion
