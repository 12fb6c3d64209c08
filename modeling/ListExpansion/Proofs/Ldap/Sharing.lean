/-
# ListExpansion.Proofs.Ldap.Sharing -- what each call gets from the shared handle

Of each call, the requests made for it, the answers they got and how far the call has come
agree (`Course`), and what it answers itself is what came of its request (`Answered`).
`Recorded` says so of all calls, and every step keeps it.  A call that is over stays as it ended
(`over_step`).

`handle_shared` puts this together with the order of the handle (`Orderly`) for every run.
-/
import ListExpansion.Proofs.Ldap.Gathering
import ListExpansion.Proofs.Ldap.Handle

namespace ListExpansion.Ldap

set_option autoImplicit false

/-! ## Who asked for what -/

def Request.caller : Request → Nat
  | .search caller _ => caller
  | .unbind caller => caller

/-- The call that a move begins. -/
def Move.call? : Move → Option Call
  | .call begun => some begun
  | _ => none

/-- Whether a move brings the answer to a request of `caller`. -/
def Move.answers (caller : Nat) : Move → Bool
  | .searchAnswered other _ _ => other == caller
  | .unbindAnswered other _ => other == caller
  | _ => false

/-- The calls begun so far; each is known by its place. -/
def callsBegun (moves : List Move) : List Call := moves.filterMap Move.call?

def answersTo (caller : Nat) (moves : List Move) : List Move := moves.filter (Move.answers caller)

/-- A call that is over. -/
def Progress.isOver : Progress → Bool
  | .searched _ => true
  | .disconnected _ => true
  | _ => false

namespace Sharing

variable {first now next : Sharing} {move : Move} {caller : Nat}

def requestsOf (now : Sharing) (caller : Nat) : List Request :=
  now.requests.filter fun request => request.caller = caller

/-! ## The course of one call -/

/-- How far a call can have come, with the requests made for it and the answers they got. -/
inductive Course (host : String) (caller : Nat) :
    Option Call → Option Progress → List Request → List Move → Prop
  | absent : Course host caller none none [] []
  | waiting (call : Call) : Course host caller (some call) (some (.waiting call)) [] []
  | searching (search : Search) :
      Course host caller (some (.search search)) (some (.searching search))
        [.search caller search] []
  | refused (search : Search) :
      Course host caller (some (.search search)) (some (.searched refusedReply)) [] []
  | searched (search : Search) (outcome : Except ClientFailure (List SortedEntry))
      (memory : Memory) :
      Course host caller (some (.search search)) (some (.searched (searchReply memory outcome)))
        [.search caller search] [.searchAnswered caller outcome memory]
  | holding : Course host caller (some .disconnect) (some .holding) [] []
  | unbinding :
      Course host caller (some .disconnect) (some .unbinding) [.unbind caller] []
  | late : Course host caller (some .disconnect) (some (.disconnected (.ok ()))) [] []
  | unbound (outcome : Except ClientFailure Unit) :
      Course host caller (some .disconnect)
        (some (.disconnected (unbindReply host outcome).1))
        [.unbind caller] [.unbindAnswered caller outcome]

namespace Course

variable {host : String} {call? : Option Call} {requests : List Request} {answers : List Move}

theorem of_none (course : Course host caller call? none requests answers) :
    call? = none ∧ requests = [] ∧ answers = [] := by
  cases course
  exact ⟨rfl, rfl, rfl⟩

theorem of_waiting {call : Call}
    (course : Course host caller call? (some (.waiting call)) requests answers) :
    call? = some call ∧ requests = [] ∧ answers = [] := by
  cases course
  exact ⟨rfl, rfl, rfl⟩

theorem of_searching {search : Search}
    (course : Course host caller call? (some (.searching search)) requests answers) :
    call? = some (.search search) ∧ requests = [.search caller search] ∧ answers = [] := by
  cases course
  exact ⟨rfl, rfl, rfl⟩

theorem of_searched {reply : Reply}
    (course : Course host caller call? (some (.searched reply)) requests answers) :
    ∃ search, call? = some (.search search) ∧
      (reply = refusedReply ∧ requests = [] ∨
        ∃ outcome memory, Answered memory outcome reply ∧
          requests = [.search caller search] ∧
          answers = [.searchAnswered caller outcome memory]) := by
  cases course with
  | refused search => exact ⟨search, rfl, .inl ⟨rfl, rfl⟩⟩
  | searched search outcome memory =>
      exact ⟨search, rfl, .inr ⟨outcome, memory, answered_searchReply memory outcome, rfl, rfl⟩⟩

theorem of_holding (course : Course host caller call? (some .holding) requests answers) :
    call? = some .disconnect ∧ requests = [] ∧ answers = [] := by
  cases course
  exact ⟨rfl, rfl, rfl⟩

theorem of_unbinding (course : Course host caller call? (some .unbinding) requests answers) :
    call? = some .disconnect ∧ requests = [.unbind caller] ∧ answers = [] := by
  cases course
  exact ⟨rfl, rfl, rfl⟩

end Course

/-- Every call's course agrees with the record. -/
structure Recorded (host : String) (moves : List Move) (now : Sharing) : Prop where
  host_eq : now.directory.host = host
  length_eq : (callsBegun moves).length = now.calls.length
  course : ∀ caller, Course host caller (callsBegun moves)[caller]? now.calls[caller]?
    (now.requestsOf caller) (answersTo caller moves)

variable {host : String} {moves : List Move}

theorem Recorded.start (directory : LdapDirectory) :
    Recorded directory.host [] (start directory) :=
  ⟨rfl, rfl, fun _ => .absent⟩

theorem answersTo_concat (moves : List Move) (last : Move) (other : Nat) :
    answersTo other (moves ++ [last]) =
      answersTo other moves ++ if last.answers other then [last] else [] := by
  simp [answersTo, List.filter_cons]

/-- A step of one call that has begun brings that call further and leaves the record of all
others alone. -/
theorem Recorded.advance {old new : Progress} {added : List Request} {answered : List Move}
    (recorded : Recorded host moves now) (there : now.calls[caller]? = some old)
    (begins : move.call? = none) (host_eq : next.directory.host = now.directory.host)
    (calls : next.calls = now.calls.set caller new)
    (requests : next.requests = now.requests ++ added)
    (own : ∀ request ∈ added, request.caller = caller)
    (answers : ∀ other, (if move.answers other then [move] else []) =
      if caller = other then answered else [])
    (course : ∀ {call? requests answers}, Course host caller call? (some old) requests answers →
      Course host caller call? (some new) (requests ++ added) (answers ++ answered)) :
    Recorded host (moves ++ [move]) next := by
  have same : callsBegun (moves ++ [move]) = callsBegun moves := by simp [callsBegun, begins]
  have split other : next.requestsOf other =
      now.requestsOf other ++ added.filter fun request => request.caller = other := by
    rw [requestsOf, requests, List.filter_append]
    rfl
  refine ⟨host_eq.trans recorded.host_eq, ?_, fun other => ?_⟩
  · rw [same, calls, List.length_set]
    exact recorded.length_eq
  · rw [same, calls, split, answersTo_concat, answers]
    have before := recorded.course other
    by_cases ne : caller = other
    · subst ne
      rw [there] at before
      rw [List.getElem?_set_self (List.getElem?_eq_some_iff.1 there).1, if_pos rfl,
        List.filter_eq_self.2 fun request member => decide_eq_true (own request member)]
      exact course before
    · have none_added : (added.filter fun request => request.caller = other) = [] :=
        List.filter_eq_nil_iff.2 fun request member hit =>
          ne ((own request member).symm.trans (of_decide_eq_true hit))
      rw [List.getElem?_set_ne ne, if_neg ne, none_added, List.append_nil, List.append_nil]
      exact before

theorem Recorded.begin (recorded : Recorded host moves now) (call : Call) :
    Recorded host (moves ++ [.call call]) { now with calls := now.calls ++ [.waiting call] } := by
  have begun : callsBegun (moves ++ [.call call]) = callsBegun moves ++ [call] := by
    simp [callsBegun, Move.call?]
  have unanswered other : answersTo other (moves ++ [.call call]) = answersTo other moves := by
    simp [answersTo, Move.answers]
  refine ⟨recorded.host_eq, by simp [begun, recorded.length_eq], fun caller => ?_⟩
  rw [begun, unanswered]
  have before := recorded.course caller
  rcases Nat.lt_trichotomy caller now.calls.length with earlier | rfl | later
  · rw [List.getElem?_append_left (recorded.length_eq ▸ earlier),
      List.getElem?_append_left earlier]
    exact before
  · rw [List.getElem?_eq_none (Nat.le_refl _)] at before
    obtain ⟨-, requests, answers⟩ := before.of_none
    have mine : (callsBegun moves ++ [call])[now.calls.length]? = some call :=
      recorded.length_eq ▸ List.getElem?_concat_length
    rw [mine, List.getElem?_concat_length, answers]
    exact requests ▸ .waiting call
  · have beyond {α : Type} {list : List α} {last : α} (same : list.length = now.calls.length) :
        (list ++ [last])[caller]? = none := List.getElem?_eq_none (by simp; omega)
    rw [List.getElem?_eq_none (Nat.le_of_lt later)] at before
    obtain ⟨-, requests, answers⟩ := before.of_none
    rw [beyond recorded.length_eq, beyond rfl, answers]
    exact requests ▸ .absent

theorem Recorded.step (recorded : Recorded host moves now) (step : Step now move next) :
    Recorded host (moves ++ [move]) next := by
  have silent {caller : Nat} (other : Nat) : ([] : List Move) = if caller = other then [] else [] :=
    (ite_self _).symm
  have alone {answer : Move} {caller : Nat} (other : Nat) :
      (if (caller == other) = true then [answer] else []) =
        if caller = other then [answer] else [] := by
    simp only [beq_iff_eq]
  cases step with
  | call call => exact recorded.begin call
  | @search caller search there free connected =>
      refine recorded.advance there rfl rfl rfl rfl (by simp [Request.caller]) silent
        fun before => ?_
      obtain ⟨rfl, rfl, rfl⟩ := before.of_waiting
      exact .searching search
  | @refuse caller search there gone =>
      refine recorded.advance there rfl rfl rfl (List.append_nil _).symm nofun silent
        fun before => ?_
      obtain ⟨rfl, rfl, rfl⟩ := before.of_waiting
      exact .refused search
  | take there free connected =>
      refine recorded.advance there rfl rfl rfl (List.append_nil _).symm nofun silent
        fun before => ?_
      obtain ⟨rfl, rfl, rfl⟩ := before.of_waiting
      exact .holding
  | late there gone =>
      refine recorded.advance there rfl rfl rfl (List.append_nil _).symm nofun silent
        fun before => ?_
      obtain ⟨rfl, rfl, rfl⟩ := before.of_waiting
      exact .late
  | unbind there =>
      refine recorded.advance there rfl rfl rfl rfl (by simp [Request.caller]) silent
        fun before => ?_
      obtain ⟨rfl, rfl, rfl⟩ := before.of_holding
      exact .unbinding
  | @searched caller search there outcome memory =>
      refine recorded.advance there rfl rfl rfl (List.append_nil _).symm nofun alone
        fun before => ?_
      obtain ⟨rfl, rfl, rfl⟩ := before.of_searching
      exact .searched search outcome memory
  | unbound there outcome =>
      refine recorded.advance there rfl rfl rfl (List.append_nil _).symm nofun alone
        fun before => ?_
      obtain ⟨rfl, rfl, rfl⟩ := before.of_unbinding
      exact recorded.host_eq ▸ .unbound outcome

theorem Recorded.run {directory : LdapDirectory}
    (ran : (Sharing.start directory).run? moves = some now) :
    Recorded directory.host moves now :=
  run?_induction (Recorded.start directory)
    (fun _ _ _ _ before step => Recorded.step before step) ran

/-! ## What stays as it is -/

/-- A call that is over stays as it ended and asks for nothing more. -/
theorem over_step {ended : Progress} (is_over : ended.isOver = true)
    (there : now.calls[caller]? = some ended) (step : Step now move next) :
    next.calls[caller]? = some ended ∧ next.requestsOf caller = now.requestsOf caller := by
  have elsewhere {other : Nat} {old : Progress} (at_ : now.calls[other]? = some old)
      (unfinished : old.isOver = false) : other ≠ caller := by
    rintro rfl
    cases there.symm.trans at_
    rw [is_over] at unfinished
    cases unfinished
  have moved {other : Nat} {old : Progress} (progress : Progress)
      (at_ : now.calls[other]? = some old) (unfinished : old.isOver = false) :
      (now.set other progress).calls[caller]? = some ended :=
    (getElem?_set_of_ne progress (elsewhere at_ unfinished)).trans there
  cases step with
  | call call =>
      have inside : caller < now.calls.length := (List.getElem?_eq_some_iff.1 there).1
      exact ⟨(List.getElem?_append_left inside).trans there, rfl⟩
  | search at_ free connected =>
      refine ⟨moved _ at_ rfl, ?_⟩
      simp [requestsOf, request, Sharing.set, Request.caller, elsewhere at_ rfl]
  | refuse at_ gone => exact ⟨moved _ at_ rfl, rfl⟩
  | take at_ free connected => exact ⟨moved _ at_ rfl, rfl⟩
  | late at_ gone => exact ⟨moved _ at_ rfl, rfl⟩
  | unbind at_ =>
      refine ⟨moved _ at_ rfl, ?_⟩
      simp [requestsOf, request, Sharing.set, Request.caller, elsewhere at_ rfl]
  | searched at_ outcome memory => exact ⟨moved _ at_ rfl, rfl⟩
  | unbound at_ outcome => exact ⟨moved _ at_ rfl, rfl⟩

theorem over_run {ended : Progress} (is_over : ended.isOver = true)
    (there : first.calls[caller]? = some ended) (ran : first.run? moves = some now) :
    now.calls[caller]? = some ended ∧ now.requestsOf caller = first.requestsOf caller := by
  refine run?_induction (motive := fun _ now => now.calls[caller]? = some ended ∧
    now.requestsOf caller = first.requestsOf caller) ⟨there, rfl⟩ ?_ ran
  rintro _ before _ after ⟨at_, requests⟩ step
  obtain ⟨stays, same⟩ := over_step is_over at_ step
  exact ⟨stays, same.trans requests⟩

/-! ## Every run -/

/-- What a call comes to that gets the lock and finds no handle. -/
def declined : Call → Progress
  | .search _ => .searched refusedReply
  | .disconnect => .disconnected (.ok ())

theorem isOver_declined (call : Call) : (declined call).isOver = true := by
  cases call <;> rfl

theorem enter_gone {call : Call} (gone : now.directory.connected = false)
    (there : now.calls[caller]? = some (.waiting call)) (step : Step now (.enter caller) next) :
    next.calls[caller]? = some (declined call) ∧
      next.requestsOf caller = now.requestsOf caller := by
  cases step with
  | search other free connected => cases gone.symm.trans connected
  | refuse other gone =>
      cases there.symm.trans other
      exact ⟨getElem?_set_self _ there, rfl⟩
  | take other free connected => cases gone.symm.trans connected
  | late other gone =>
      cases there.symm.trans other
      exact ⟨getElem?_set_self _ there, rfl⟩

/-- A call that waits is the one that was begun in its place, however the run goes on. -/
theorem Recorded.begun_of_waiting {call : Call} (recorded : Recorded host moves now)
    (there : now.calls[caller]? = some (.waiting call)) (late : List Move) :
    (callsBegun (moves ++ late))[caller]? = some call ∧ now.requestsOf caller = [] := by
  have course := recorded.course caller
  rw [there] at course
  obtain ⟨begun, requests, -⟩ := course.of_waiting
  refine ⟨?_, requests⟩
  rw [callsBegun, List.filterMap_append]
  exact (List.getElem?_append_left (List.getElem?_eq_some_iff.1 begun).1).trans begun

/-- How calls on one directory share its handle, in a run of `moves` that leads to `now`. -/
structure HandleShared (directory : LdapDirectory) (moves : List Move) (now : Sharing) : Prop where
  /-- One search at most is with the client. -/
  one_search : ∀ one other, now.Searching one → now.Searching other → one = other
  /-- None is when an unbind is sent, right before or right after. -/
  quiet_unbind : ∀ early move late before after caller, moves = early ++ move :: late →
    (start directory).run? early = some before → before.move? move = some after →
    .unbind caller ∈ after.requests → .unbind caller ∉ before.requests →
    ∀ other, ¬ before.Searching other ∧ ¬ after.Searching other
  /-- One unbind at most is ever sent, whatever becomes of it. -/
  one_unbind : now.requests.countP Request.isUnbind ≤ 1
  /-- A call that gets the lock after a disconnect had it asks for nothing: a search answers
  that the directory is not connected, a disconnect that all is well. -/
  after_disconnect : ∀ early taker middle caller late call,
    moves = early ++ .enter taker :: (middle ++ .enter caller :: late) →
    (callsBegun moves)[taker]? = some .disconnect → (callsBegun moves)[caller]? = some call →
    now.requestsOf caller = [] ∧
      now.calls[caller]? = some (match call with
        | .search _ => .searched ⟨.error .notConnected, []⟩
        | .disconnect => .disconnected (.ok ()))
  /-- A search that was answered in another way was handed to the client once, as it came, and
  one outcome came back.  That is what it answers: a failure with its status, or else all values
  that were found, in their order, unless there is no memory for them. -/
  answered : ∀ caller reply, now.calls[caller]? = some (.searched reply) →
    reply.outcome ≠ .error .notConnected →
    ∃ search outcome memory, (callsBegun moves)[caller]? = some (.search search) ∧
      now.requestsOf caller = [.search caller search] ∧
      answersTo caller moves = [.searchAnswered caller outcome memory] ∧
      Answered memory outcome reply

/-- **However the calls on a connected directory come between each other, they share its
handle.** -/
theorem handle_shared (directory : LdapDirectory) (there : directory.connected = true)
    (moves : List Move) (now : Sharing) (ran : (start directory).run? moves = some now) :
    HandleShared directory moves now where
  one_search one other := (Orderly.run there ran).one
  quiet_unbind := by
    intro early move late before after caller split_ reached moved sent fresh other
    have orderly := Orderly.run there reached
    have step := step_of_move? moved
    have gone := orderly.connected_of_held (step.held_of_unbind sent fresh)
    exact ⟨orderly.gone gone other, (orderly.step step).gone (gone_step gone step) other⟩
  one_unbind := by
    have handle := (Orderly.run there ran).handle
    omega
  after_disconnect := by
    intro early taker middle caller late call split_ taking entering
    subst split_
    obtain ⟨first, taken, reached, moved, on⟩ := run?_through ran
    obtain ⟨before, after, between, entered, rest⟩ := run?_through on
    -- The first of the two is a disconnect, so the handle is gone when the second comes.
    have takes := step_of_move? moved
    obtain ⟨other, taker_waits⟩ := enter_waiting takes
    obtain ⟨taker_begun, -⟩ := (Recorded.run reached).begun_of_waiting taker_waits
      (.enter taker :: (middle ++ .enter caller :: late))
    cases taker_begun.symm.trans taking
    have gone := gone_run (enter_disconnect taker_waits takes) between
    have enters := step_of_move? entered
    obtain ⟨other, caller_waits⟩ := enter_waiting enters
    have arrived : (start directory).run? (early ++ .enter taker :: middle) = some before := by
      rw [run?_append, reached, Option.bind_some, run?_cons, moved, Option.bind_some, between]
    obtain ⟨caller_begun, idle⟩ := (Recorded.run arrived).begun_of_waiting caller_waits
      (.enter caller :: late)
    rw [List.append_assoc, List.cons_append] at caller_begun
    cases caller_begun.symm.trans entering
    obtain ⟨ended, unasked⟩ := enter_gone gone caller_waits enters
    obtain ⟨stays, silent⟩ := over_run (isOver_declined call) ended rest
    refine ⟨silent.trans (unasked.trans idle), stays.trans ?_⟩
    cases call <;> rfl
  answered := by
    intro caller reply at_ other
    have course := (Recorded.run ran).course caller
    rw [at_] at course
    obtain ⟨search, begun, ⟨rfl, -⟩ | ⟨outcome, memory, answered, requests, answers⟩⟩ :=
      course.of_searched
    · exact absurd rfl other
    · exact ⟨search, outcome, memory, begun, requests, answers, answered⟩

end Sharing

namespace Example

def members : Search := ⟨"dc=list", "(cn=team)", "member"⟩

def owners : Search := ⟨"dc=list", "(cn=team)", "owner"⟩

/-- A disconnect waits for a search and is itself followed by a search and a disconnect, which
get the lock before it has sent anything.  Its unbind fails. -/
def shutDown : List Move :=
  [.call (.search members), .enter 0, .call .disconnect, .call (.search owners), .call .disconnect,
    .searchAnswered 0 (.ok []) .ample, .enter 1, .enter 2, .enter 3, .unbind 1,
    .unbindAnswered 1 (.error .sending)]

theorem handle_shared_shutDown :
    ∃ now, (Sharing.start ⟨"ldap://localhost", true⟩).run? shutDown = some now ∧
      now.requests = [.search 0 members, .unbind 1] ∧
      Sharing.HandleShared ⟨"ldap://localhost", true⟩ shutDown now :=
  ⟨_, rfl, rfl, Sharing.handle_shared _ rfl shutDown _ rfl⟩

end Example

end ListExpansion.Ldap
