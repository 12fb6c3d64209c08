/-
# ListExpansion.Proofs.Resolver.History -- the resolver after any history

A history is a sequence of calls, each for one transaction, and `Resolver.run` makes
them one after another.  Whatever the directory answers, a call moves the map by the
one event that `Call.event` names (`call_resolver`): a sender that is not to be
expanded is an abort, on each of the three ways that `onSender` has to find that out.

No state of a transaction outlives its next event, so the map after a history shows of
each transaction its last call and nothing else (`transactions_after`).
-/
import ListExpansion.Directory.Prepared
import ListExpansion.Proofs.Resolver.Stage
import ListExpansion.Proofs.Transaction.State

namespace ListExpansion.Resolver

set_option autoImplicit false

/-- A call for one transaction.  `grants` says which copy of a capture gets its memory. -/
inductive Call where
  | sender (grants : CapturedPart → Bool) (sender : Bytes) (account : Option Bytes)
  | endOfTransaction
  | abort

/-- What a call answers. -/
inductive Answer where
  | verdict (verdict : Verdict)
  | resolution (resolution : Resolution)
  | done
  deriving DecidableEq

/-- The session that a call captures, if it captures one. -/
def Call.captured? : Call → Option Session
  | .sender grants address (some account) =>
      if account ≠ [] ∧ stripAngleBrackets address ≠ [] ∧
          grants .sender = true ∧ grants .account = true then
        some ⟨stripAngleBrackets address, account⟩
      else none
  | _ => none

/-- `call` names a sender to be expanded, and both of its copies get their memory. -/
def Call.Captures (call : Call) (session : Session) : Prop :=
  ∃ grants address account,
    call = .sender grants address (some account) ∧ account ≠ [] ∧
      stripAngleBrackets address ≠ [] ∧ grants .sender = true ∧ grants .account = true ∧
      session = ⟨stripAngleBrackets address, account⟩

theorem Call.captured?_eq_some (call : Call) (session : Session) :
    call.captured? = some session ↔ call.Captures session := by
  constructor
  · intro captured
    match call with
    | .sender grants address (some account) =>
        simp only [captured?, Option.ite_none_right_eq_some, Option.some.injEq] at captured
        obtain ⟨⟨given, named, ofSender, ofAccount⟩, rfl⟩ := captured
        exact ⟨grants, address, account, rfl, given, named, ofSender, ofAccount, rfl⟩
    | .sender _ _ none => cases captured
    | .endOfTransaction => cases captured
    | .abort => cases captured
  · rintro ⟨grants, address, account, rfl, given, named, ofSender, ofAccount, rfl⟩
    simp [captured?, given, named, ofSender, ofAccount]

/-- What a call means to its transaction. -/
def Call.event : Call → TransactionEvent
  | .endOfTransaction => .endOfTransaction
  | .abort => .abort
  | call@(.sender _ _ _) => (call.captured?.map .capture).getD .abort

/-- The calls of a history that name `id`. -/
def callsOf (id : TransactionId) (history : List (TransactionId × Call)) : List Call :=
  (history.filter fun call => call.1 = id).map Prod.snd

section Run

variable {σ : Type} (directory : Directory σ)

def call (resolver : Resolver) (id : TransactionId) (state : σ) : Call → Answer × Resolver × σ
  | .sender grants sender account =>
      let (verdict, resolver, _) := resolver.onSender grants id sender account
      (.verdict verdict, resolver, state)
  | .endOfTransaction =>
      let (resolution, resolver, state, _) := resolver.onEndOfTransaction directory id state
      (.resolution resolution, resolver, state)
  | .abort => (.done, (resolver.onAbort id).1, state)

/-- The answers to a history, and what the resolver and the directory are after it. -/
def run (resolver : Resolver) (state : σ) :
    List (TransactionId × Call) → List Answer × Resolver × σ
  | [] => ([], resolver, state)
  | (id, made) :: rest =>
      let (answer, resolver, state) := resolver.call directory id state made
      let (answers, resolver, state) := run resolver state rest
      (answer :: answers, resolver, state)

/-! ## One call -/

theorem onSender_transactions (grants : CapturedPart → Bool) (resolver : Resolver)
    (id : TransactionId) (sender : Bytes) (account : Option Bytes) :
    (resolver.onSender grants id sender account).2.1 =
      (resolver.advance id (Call.sender grants sender account).event).1 := by
  cases account with
  | none => rfl
  | some account =>
      by_cases given : account = []
      · subst given
        rfl
      · have counted : authenticated? (some account) = some account := by
          simp [authenticated?, given]
        by_cases named : stripAngleBrackets sender = []
        · simp [onSender, counted, named, Call.event, Call.captured?]
        · by_cases granted : grants .sender = true ∧ grants .account = true
          · simp [onSender, counted, named, given, granted, Session.capture?, Call.event,
              Call.captured?]
          · have refused : (grants .sender && grants .account) = false := by
              simpa [Bool.and_eq_true] using granted
            simp [onSender, counted, named, given, granted, refused, Session.capture?, Call.event,
              Call.captured?]

/-- Every call feeds the map just one event, for its own transaction. -/
theorem call_resolver (resolver : Resolver) (id : TransactionId) (state : σ) (made : Call) :
    (resolver.call directory id state made).2.1 = (resolver.advance id made.event).1 := by
  cases made with
  | sender grants sender account => exact onSender_transactions grants resolver id sender account
  | endOfTransaction => exact onEndOfTransaction_resolver directory resolver id state
  | abort => rfl

/-! ## Any history -/

/-- The map after a history is that after its events. -/
theorem run_transactions (history : List (TransactionId × Call)) (resolver : Resolver) (state : σ) :
    (resolver.run directory state history).2.1.transactions =
      resolver.transactions.feed (history.map fun call => (call.1, call.2.event)) := by
  induction history generalizing resolver state with
  | nil => rfl
  | cons made rest ih =>
      obtain ⟨id, made⟩ := made
      have moved := call_resolver directory resolver id state made
      rw [run, ih, moved]
      rfl

/-- No call changes the lookups. -/
theorem run_lookups (history : List (TransactionId × Call)) (resolver : Resolver) (state : σ) :
    (resolver.run directory state history).2.1.lookups = resolver.lookups := by
  induction history generalizing resolver state with
  | nil => rfl
  | cons made rest ih =>
      obtain ⟨id, made⟩ := made
      have moved := call_resolver directory resolver id state made
      rw [run, ih, moved]
      rfl

/-- A call made last finds what the calls before it left. -/
theorem run_concat (history : List (TransactionId × Call)) (id : TransactionId) (made : Call)
    (resolver : Resolver) (state : σ) :
    (resolver.run directory state (history ++ [(id, made)])).2 =
      let before := (resolver.run directory state history).2
      (before.1.call directory id before.2 made).2 := by
  induction history generalizing resolver state with
  | nil => rfl
  | cons first rest ih => exact ih _ _

/-- Nothing of the state before an event is left in the state after it. -/
theorem transition_fst (state : TransactionState) (made : Call) :
    (state.transition made.event).1 = (made.captured?.map .captured).getD .idle := by
  cases made with
  | sender grants address account =>
      rw [Call.event]
      cases Call.captured? (.sender grants address account) <;> cases state <;> rfl
  | endOfTransaction => cases state <;> rfl
  | abort => cases state <;> rfl

/-- The map holds of a transaction what its last call captured. -/
theorem state_call (resolver : Resolver) (id : TransactionId) (made : Call) :
    (resolver.advance id made.event).1.transactions.state id =
      (made.captured?.map .captured).getD .idle :=
  (resolver.transactions.state_advance_self id made.event).trans (transition_fst _ made)

/-- Only the last call counts. -/
theorem feed_calls (calls : List Call) :
    TransactionState.idle.feed (calls.map Call.event) =
      ((calls.getLast?.bind Call.captured?).map .captured).getD .idle := by
  rcases List.eq_nil_or_concat calls with rfl | ⟨earlier, last, rfl⟩
  · rfl
  · simp [TransactionState.feed, transition_fst]

theorem feed_calls_captured (calls : List Call) (session : Session) :
    TransactionState.idle.feed (calls.map Call.event) = .captured session ↔
      ∃ call, calls.getLast? = some call ∧ call.Captures session := by
  rw [feed_calls]
  cases calls.getLast? with
  | none => simp
  | some last =>
      rw [Option.bind_some]
      have captures := last.captured?_eq_some session
      cases captured : last.captured? with
      | none => simpa [captured] using captures
      | some found => simpa [captured] using captures

/-- The entries of a map that these calls left of a transaction. -/
theorem mem_entries_of_calls {transactions : Transactions} (kept : transactions.WellKept)
    {id : TransactionId} {calls : List Call}
    (left : transactions.state id = TransactionState.idle.feed (calls.map Call.event))
    (state : TransactionState) :
    (id, state) ∈ transactions.entries ↔
      ∃ call session, calls.getLast? = some call ∧ call.Captures session ∧
        state = .captured session := by
  rw [Transactions.mem_entries_iff kept, left]
  cases state with
  | idle => simp
  | captured session => simpa using feed_calls_captured calls session

theorem callsOf_event (id : TransactionId) (history : List (TransactionId × Call)) :
    ((history.map fun call => (call.1, call.2.event)).filter fun event => event.1 = id).map
        Prod.snd = (callsOf id history).map Call.event := by
  simp [callsOf, List.filter_map, Function.comp_def]

/-- Of each transaction the map shows what its own calls left. -/
theorem state_run (lookups : Lookups) (start : σ) (history : List (TransactionId × Call))
    (id : TransactionId) :
    ((new lookups).run directory start history).2.1.transactions.state id =
      TransactionState.idle.feed ((callsOf id history).map Call.event) := by
  rw [run_transactions, Transactions.state_feed, callsOf_event]
  rfl

theorem wellKept_run (lookups : Lookups) (start : σ) (history : List (TransactionId × Call)) :
    ((new lookups).run directory start history).2.1.transactions.WellKept := by
  rw [run_transactions]
  exact Transactions.wellKept_feed Transactions.wellKept_empty _

/-- What was captured before an end of transaction is not there for the next one. -/
theorem captured_since {before between : List (TransactionId × Call)} {id : TransactionId}
    {call : Call} {session : Session} (captures : call.Captures session)
    (last : (callsOf id (before ++ (id, .endOfTransaction) :: between)).getLast? = some call) :
    (callsOf id between).getLast? = some call := by
  have split_ : callsOf id (before ++ (id, .endOfTransaction) :: between) =
      callsOf id before ++ .endOfTransaction :: callsOf id between := by
    simp [callsOf]
  rw [split_, List.getLast?_append, List.getLast?_cons, Option.some_or] at last
  cases since : (callsOf id between).getLast? with
  | some there => simpa [since] using last
  | none =>
      obtain ⟨_, _, _, rfl, _⟩ := captures
      simp [since] at last

/-- **After any history the map holds of each transaction what its last call captured**,
if that was a call which captures, and nothing else: no idle entry and none of an earlier
call.  Transaction by transaction it is the fold of `transition` over the transaction's
own events, and ending one hands over what the map holds, once: the next end can only hand
over what was captured in between. -/
theorem transactions_after (lookups : Lookups) (start : σ)
    (history : List (TransactionId × Call)) :
    let resolver := ((new lookups).run directory start history).2.1
    (∀ id state, (id, state) ∈ resolver.transactions.entries ↔
      ∃ call session, (callsOf id history).getLast? = some call ∧ call.Captures session ∧
        state = .captured session) ∧
    (∃ ids : List TransactionId, ids.Nodup ∧ resolver.pending = ids.length ∧
      ∀ id, id ∈ ids ↔
        ∃ call session, (callsOf id history).getLast? = some call ∧ call.Captures session) ∧
    (∀ id, resolver.transactions.state id =
      TransactionState.idle.feed ((callsOf id history).map Call.event)) ∧
    (∀ id state, (resolver.onEndOfTransaction directory id state).2.1 = (resolver.leave id).1) ∧
    (∀ id session, (resolver.leave id).2 = some session ↔
      (id, .captured session) ∈ resolver.transactions.entries) ∧
    (∀ id state, (id, state) ∉ (resolver.leave id).1.transactions.entries) ∧
    (∀ id before between session,
      history = before ++ (id, .endOfTransaction) :: between →
        (resolver.leave id).2 = some session →
          ∃ call, (callsOf id between).getLast? = some call ∧ call.Captures session) := by
  intro resolver
  have kept : resolver.transactions.WellKept := wellKept_run directory lookups start history
  have entry (id : TransactionId) (state : TransactionState) :
      (id, state) ∈ resolver.transactions.entries ↔
        ∃ call session, (callsOf id history).getLast? = some call ∧ call.Captures session ∧
          state = .captured session :=
    mem_entries_of_calls kept (state_run directory lookups start history id) state
  have handed (id : TransactionId) (session : Session) :
      (resolver.leave id).2 = some session ↔
        (id, .captured session) ∈ resolver.transactions.entries := by
    rw [Transactions.mem_entries_iff kept]
    simpa [leave, advance] using resolver.transactions.advance_endOfTransaction session
  refine ⟨entry, ?_, state_run directory lookups start history,
    onEndOfTransaction_resolver directory resolver, handed, ?_, ?_⟩
  · refine ⟨resolver.transactions.entries.map Prod.fst, kept.nodup, by simp [pending,
      Transactions.pending], fun id => ?_⟩
    constructor
    · intro member
      obtain ⟨⟨_, state⟩, held, rfl⟩ := List.mem_map.1 member
      obtain ⟨call, session, last, captures, -⟩ := (entry _ state).1 held
      exact ⟨call, session, last, captures⟩
    · rintro ⟨call, session, last, captures⟩
      have held := (entry id (.captured session)).2 ⟨call, session, last, captures, rfl⟩
      exact List.mem_map_of_mem held
  · intro id state held
    have left : (resolver.leave id).1.transactions.WellKept := Transactions.wellKept_advance kept _
    obtain ⟨found, notIdle⟩ := (Transactions.mem_entries_iff left state).1 held
    apply notIdle
    rw [← found]
    exact resolver.state_call id .endOfTransaction
  · intro id before between session split_ left
    have held := (handed id session).1 left
    obtain ⟨call, found, last, captures, same⟩ := (entry id _).1 held
    cases same
    rw [split_] at last
    exact ⟨call, captured_since captures last, captures⟩

end Run

/-! ## Two captures and an end between them -/

namespace Example

def first : TransactionId × Call := (⟨0⟩, .sender (fun _ => true) [0x3C, 0x61, 0x3E] (some [0x62]))

def later : List (TransactionId × Call) :=
  [(⟨1⟩, .abort), (⟨0⟩, .sender (fun _ => true) [0x63] (some [0x62]))]

theorem transactions_after_second_capture :
    let history := first :: (⟨0⟩, .endOfTransaction) :: later
    let resolver := ((new ⟨⟨"", "", ""⟩, ⟨"", "", ""⟩⟩).run PreparedDirectory.asDirectory
      .empty history).2.1
    (resolver.leave ⟨0⟩).2 = some ⟨[0x63], [0x62]⟩ ∧
      ∃ call, (callsOf ⟨0⟩ later).getLast? = some call ∧ call.Captures ⟨[0x63], [0x62]⟩ := by
  intro history resolver
  have handed : (resolver.leave ⟨0⟩).2 = some ⟨[0x63], [0x62]⟩ := rfl
  obtain ⟨-, -, -, -, -, -, once⟩ := transactions_after PreparedDirectory.asDirectory
    ⟨⟨"", "", ""⟩, ⟨"", "", ""⟩⟩ .empty history
  exact ⟨handed, once ⟨0⟩ [first] later _ rfl handed⟩

end Example

end ListExpansion.Resolver
