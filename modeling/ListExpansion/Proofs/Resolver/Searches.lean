/-
# ListExpansion.Proofs.Resolver.Searches -- what reaches the directory

`Searched` is the specification of one resolution: the list is searched for the sender if
the query can be filled in, and then the account for its owner if the list has members and
the query can be filled in.  `SearchesDue` is that of one call: an end of transaction that
finds a session resolves it, and no other call asks anything.

A directory that records its searches shows after any history just those that were due,
call by call (`searches_exact`).
-/
import ListExpansion.Proofs.Address.Order
import ListExpansion.Proofs.Directory.Query
import ListExpansion.Proofs.Directory.Recording
import ListExpansion.Proofs.Record
import ListExpansion.Proofs.Resolver.Expansion
import ListExpansion.Proofs.Resolver.History
import ListExpansion.Proofs.Resolver.Resolution

namespace ListExpansion

set_option autoImplicit false

variable {σ : Type}

/-- What resolving `session` asks of a directory in `state`. -/
inductive Searched (directory : Directory σ) (lookups : Lookups) (state : σ) (session : Session) :
    List Search → Prop
  | nothing (unfilled : ∀ search, ¬ lookups.list.Fills session.sender search) :
      Searched directory lookups state session []
  | listOnly {listing : Search} (fills : lookups.list.Fills session.sender listing)
      (stops : ∀ members account, (directory.search listing state).1.outcome = .ok members →
        members.toList ≠ [] → ¬ lookups.account.Fills session.account account) :
      Searched directory lookups state session [listing]
  | both {listing account : Search} {members : AddressSet}
      (fills : lookups.list.Fills session.sender listing)
      (listed : (directory.search listing state).1.outcome = .ok members)
      (some_ : members.toList ≠ []) (fillsToo : lookups.account.Fills session.account account) :
      Searched directory lookups state session [listing, account]

section Searched

variable {directory : Directory σ} {lookups : Lookups} {state : σ} {session : Session}

/-- The searches of a resolution are fixed by the directory's state. -/
theorem Searched.unique {one other : List Search}
    (first : Searched directory lookups state session one)
    (second : Searched directory lookups state session other) : one = other := by
  cases first with
  | nothing unfilled =>
      cases second with
      | nothing _ => rfl
      | listOnly fills _ => exact absurd fills (unfilled _)
      | both fills _ _ _ => exact absurd fills (unfilled _)
  | listOnly fills stops =>
      cases second with
      | nothing unfilled => exact absurd fills (unfilled _)
      | listOnly fillsAlso _ => rw [fills.unique fillsAlso]
      | both fillsAlso listed some_ fillsToo =>
          rw [fillsAlso.unique fills] at listed
          exact absurd fillsToo (stops _ _ listed some_)
  | both fills listed some_ fillsToo =>
      cases second with
      | nothing unfilled => exact absurd fills (unfilled _)
      | listOnly fillsAlso stops =>
          rw [fills.unique fillsAlso] at listed
          exact absurd fillsToo (stops _ _ listed some_)
      | both fillsAlso _ _ fillsTooAlso =>
          rw [fills.unique fillsAlso, fillsToo.unique fillsTooAlso]

/-- Each search has the sender or the account in it. -/
theorem Searched.fills {made : List Search} (searched : Searched directory lookups state session made)
    {search : Search} (member : search ∈ made) :
    lookups.list.Fills session.sender search ∨ lookups.account.Fills session.account search := by
  cases searched with
  | nothing unfilled => cases member
  | listOnly fills stops =>
      obtain rfl := List.mem_singleton.1 member
      exact .inl fills
  | both fills listed some_ fillsToo =>
      rcases List.mem_cons.1 member with rfl | second
      · exact .inl fills
      · obtain rfl := List.mem_singleton.1 second
        exact .inr fillsToo

/-- A resolution makes the searches that it should. -/
theorem searched_ofLookups {recorded : σ → List Search} (records : directory.Records recorded)
    (lookups : Lookups) (session : Session) (state : σ) :
    ∃ made, Searched directory lookups state session made ∧
      recorded (Resolution.ofLookups (directory.lookUp lookups.list session.sender)
        (directory.lookUp lookups.account session.account) state).2 = recorded state ++ made := by
  rcases directory.lookUp_cases lookups.list session.sender with
    ⟨listing, fills, asks⟩ | ⟨unfilled, fails⟩
  · have searched := asks state
    cases listed : (directory.search listing state).1.outcome with
    | error error =>
        refine ⟨[listing], .listOnly fills fun _ _ found => (nomatch listed.symm.trans found), ?_⟩
        rw [Resolution.ofLookups_listFailed ((congrArg (·.1.outcome) searched).trans listed),
          searched]
        exact records listing state
    | ok members =>
        have found := (congrArg (·.1.outcome) searched).trans listed
        cases none_ : members.isEmpty with
        | true =>
            refine ⟨[listing], .listOnly fills fun others _ foundOthers some_ => ?_, ?_⟩
            · cases listed.symm.trans foundOthers
              exact absurd (members.isEmpty_iff.1 none_) some_
            · rw [Resolution.ofLookups_notAList found none_, searched]
              exact records listing state
        | false =>
            have some_ : members.toList ≠ [] := by
              rw [Ne, ← members.isEmpty_iff, none_]
              exact Bool.false_ne_true
            -- The account is looked up; whether that searches depends on its query alone.
            have second : (Resolution.ofLookups (directory.lookUp lookups.list session.sender)
                (directory.lookUp lookups.account session.account) state).2 =
                  (directory.lookUp lookups.account session.account
                    (directory.search listing state).2).2 := by
              rw [Resolution.ofLookups_listed found none_, searched]
            rcases directory.lookUp_cases lookups.account session.account with
              ⟨account, fillsToo, asksToo⟩ | ⟨unfilled, fails⟩
            · refine ⟨[listing, account], .both fills listed some_ fillsToo, ?_⟩
              rw [second, asksToo, records, records, List.append_assoc]
              rfl
            · obtain ⟨error, failed⟩ := fails (directory.search listing state).2
              refine ⟨[listing], .listOnly fills fun _ _ _ _ => unfilled _, ?_⟩
              rw [second, failed]
              exact records listing state
  · obtain ⟨error, failed⟩ := fails state
    refine ⟨[], .nothing unfilled, ?_⟩
    rw [Resolution.ofLookups_listFailed (congrArg (·.1.outcome) failed), failed, List.append_nil]

end Searched

namespace Resolver

/-- The searches due for a call of a transaction that made the `earlier` ones, when the
directory is in `state`. -/
inductive SearchesDue (directory : Directory σ) (lookups : Lookups) (state : σ)
    (earlier : List Call) : Call → List Search → Prop
  | resolving {last : Call} {session : Session} {made : List Search}
      (latest : earlier.getLast? = some last) (captures : last.Captures session)
      (searched : Searched directory lookups state session made) :
      SearchesDue directory lookups state earlier .endOfTransaction made
  | noSession (none_ : ∀ last session, earlier.getLast? = some last → ¬ last.Captures session) :
      SearchesDue directory lookups state earlier .endOfTransaction []
  | otherCall {call : Call} (other : call ≠ .endOfTransaction) :
      SearchesDue directory lookups state earlier call []

/-- What is due is fixed by the calls before and the directory's state. -/
theorem SearchesDue.unique {directory : Directory σ} {lookups : Lookups} {state : σ}
    {earlier : List Call} {call : Call} {one other : List Search}
    (first : SearchesDue directory lookups state earlier call one)
    (second : SearchesDue directory lookups state earlier call other) : one = other := by
  cases first with
  | @resolving last session _ latest captures searched =>
      cases second with
      | @resolving lastAlso sessionAlso _ latestAlso capturesAlso searchedAlso =>
          obtain rfl : last = lastAlso := Option.some.inj (latest.symm.trans latestAlso)
          rw [← Call.captured?_eq_some] at captures capturesAlso
          obtain rfl : session = sessionAlso := Option.some.inj (captures.symm.trans capturesAlso)
          exact searched.unique searchedAlso
      | noSession none_ => exact absurd captures (none_ _ _ latest)
      | otherCall other => exact absurd rfl other
  | noSession none_ =>
      cases second with
      | resolving latest captures _ => exact absurd captures (none_ _ _ latest)
      | noSession _ => rfl
      | otherCall _ => rfl
  | otherCall other =>
      cases second with
      | resolving _ _ _ => exact absurd rfl other
      | noSession _ => rfl
      | otherCall _ => rfl

section Due

variable {directory : Directory σ} {recorded : σ → List Search}
  (records : directory.Records recorded)

include records

/-- One call of a transaction makes the searches that are due. -/
theorem call_due {resolver : Resolver} {id : TransactionId} {earlier : List Call}
    (left : resolver.transactions.state id =
      TransactionState.idle.feed (earlier.map Call.event)) (state : σ) (made : Call) :
    ∃ searches, SearchesDue directory resolver.lookups state earlier made searches ∧
      recorded (resolver.call directory id state made).2.2 = recorded state ++ searches := by
  by_cases ends : made = .endOfTransaction
  · subst ends
    have whole := congrArg (·.2.2) (onEndOfTransaction_endBy directory resolver id state)
    cases handed : (resolver.leave id).2 with
    | none =>
        refine ⟨[], .noSession fun last session latest captures => ?_, ?_⟩
        · have held := (feed_calls_captured earlier session).2 ⟨last, latest, captures⟩
          have found := (resolver.transactions.advance_endOfTransaction session).2 (left.trans held)
          exact nomatch handed.symm.trans found
        · simp only [endBy, handed] at whole
          simp only [call, whole, List.append_nil]
    | some session =>
        have held := (resolver.transactions.advance_endOfTransaction session).1 handed
        obtain ⟨last, latest, captures⟩ :=
          (feed_calls_captured earlier session).1 (left.symm.trans held)
        obtain ⟨searches, searched, shows⟩ :=
          searched_ofLookups records resolver.lookups session state
        simp only [endBy, handed] at whole
        refine ⟨searches, .resolving latest captures searched, ?_⟩
        simp only [call, whole]
        exact shows
  · refine ⟨[], .otherCall ends, ?_⟩
    cases made with
    | endOfTransaction => exact absurd rfl ends
    | sender grants sender account => exact (List.append_nil _).symm
    | abort => exact (List.append_nil _).symm

/-- The record grows by what is due, call by call. -/
theorem run_due (lookups : Lookups) (start : σ) (history : List (TransactionId × Call)) :
    ∃ made : List (List Search), made.length = history.length ∧
      recorded ((new lookups).run directory start history).2.2 = recorded start ++ made.flatten ∧
      (∀ before call after, history = before ++ call :: after → ∀ searches,
        made[before.length]? = some searches ↔
          SearchesDue directory lookups ((new lookups).run directory start before).2.2
            (callsOf call.1 before) call.2 searches) ∧
      ∀ searches ∈ made, ∃ before call after, history = before ++ call :: after ∧
        SearchesDue directory lookups ((new lookups).run directory start before).2.2
          (callsOf call.1 before) call.2 searches := by
  have whole := exists_additions
    (fun history => recorded ((new lookups).run directory start history).2.2) id
    (fun before call searches =>
      SearchesDue directory lookups ((new lookups).run directory start before).2.2
        (callsOf call.1 before) call.2 searches)
    (fun before call => ?_) (fun _ _ _ _ => SearchesDue.unique) history
  · simpa only [List.flatMap_id, run] using whole
  · obtain ⟨searches, due, shows⟩ :=
      call_due records (state_run directory lookups start before call.1)
        ((new lookups).run directory start before).2.2 call.2
    rw [run_lookups] at due
    refine ⟨searches, due, ?_⟩
    rw [run_concat]
    exact shows

omit records in
/-- A search is due only for a sender that was captured, and with neither address empty. -/
theorem SearchesDue.captured {lookups : Lookups} {state : σ} {earlier : List Call} {call : Call}
    {searches : List Search} (due : SearchesDue directory lookups state earlier call searches)
    {search : Search} (member : search ∈ searches) :
    call = .endOfTransaction ∧ ∃ grants sender account,
      earlier.getLast? = some (.sender grants sender (some account)) ∧ account ≠ [] ∧
        stripAngleBrackets sender ≠ [] ∧
        (lookups.list.Fills (stripAngleBrackets sender) search ∨
          lookups.account.Fills account search) := by
  cases due with
  | resolving latest captures searched =>
      obtain ⟨grants, sender, account, rfl, given, named, -, -, rfl⟩ := captures
      exact ⟨rfl, grants, sender, account, latest, given, named, searched.fills member⟩
  | noSession _ => cases member
  | otherCall _ => cases member

/-- **A directory hears what is due, call by call, and nothing else.**  An end of transaction
that finds a session searches the list for its sender, and then the account for its owner if
the list has members, each as far as the query can be filled in.  What is put into a query is
never empty, and comes from the last call before, which captured it. -/
theorem searches_exact (lookups : Lookups) (start : σ) (history : List (TransactionId × Call)) :
    ∃ made : List (List Search), made.length = history.length ∧
      recorded ((new lookups).run directory start history).2.2 = recorded start ++ made.flatten ∧
      (∀ before id call after, history = before ++ (id, call) :: after → ∀ searches,
        made[before.length]? = some searches ↔
          SearchesDue directory lookups ((new lookups).run directory start before).2.2
            (callsOf id before) call searches) ∧
      (∀ search ∈ made.flatten, ∃ before id after grants sender account,
        history = before ++ (id, .endOfTransaction) :: after ∧
          (callsOf id before).getLast? = some (.sender grants sender (some account)) ∧
          account ≠ [] ∧ stripAngleBrackets sender ≠ [] ∧
          (lookups.list.Fills (stripAngleBrackets sender) search ∨
            lookups.account.Fills account search)) := by
  obtain ⟨made, length, shows, due, members⟩ := run_due records lookups start history
  refine ⟨made, length, shows, fun before id call => due before (id, call), ?_⟩
  intro search member
  obtain ⟨searches, isMade, inSearches⟩ := List.mem_flatten.1 member
  obtain ⟨before, ⟨id, call⟩, after, split_, dueThere⟩ := members searches isMade
  obtain ⟨rfl, grants, sender, account, latest, given, named, fills⟩ :=
    dueThere.captured inSearches
  exact ⟨before, id, after, grants, sender, account, split_, latest, given, named, fills⟩

end Due

/-! ## A capture, a null sender and an end that comes twice -/

namespace Example

def history : List (TransactionId × Call) :=
  [(⟨0⟩, .sender (fun _ => true) session.sender (some session.account)),
    (⟨1⟩, .sender (fun _ => true) [0x3C, 0x3E] (some session.account)),
    (⟨1⟩, .endOfTransaction), (⟨0⟩, .endOfTransaction), (⟨0⟩, .endOfTransaction)]

def made : List Search :=
  [⟨"ou=lists,dc=x", "(mail=t@x)", "member"⟩, ⟨"ou=people", "(uid=al)", "mail"⟩]

theorem searched_team :
    Searched PreparedDirectory.asDirectory lookups
      ((new lookups).run PreparedDirectory.asDirectory directory (history.take 3)).2.2 session made := by
  have listed : (PreparedDirectory.asDirectory.search ⟨"ou=lists,dc=x", "(mail=t@x)", "member"⟩
      ((new lookups).run PreparedDirectory.asDirectory directory (history.take 3)).2.2).1.outcome =
        .ok members := rfl
  exact .both ⟨rfl, rfl, rfl⟩ listed (by simp [members, AddressSet.ofList, AddressSet.toList])
    ⟨rfl, rfl, rfl⟩

theorem searches_exact_team :
    PreparedDirectory.asDirectory.Records PreparedDirectory.searches ∧
      ((new lookups).run PreparedDirectory.asDirectory directory history).2.2.searches = made := by
  have records := Directory.records_prepared
  obtain ⟨pieces, length, shows, due, -⟩ := searches_exact records lookups directory history
  have nothing {last : Call} (none_ : last.captured? = none) (session : Session) :
      ¬ last.Captures session := by
    rw [← Call.captured?_eq_some, none_]
    exact nofun
  have zero := (due [] ⟨0⟩ _ _ rfl []).2 (.otherCall nofun)
  have one := (due (history.take 1) ⟨1⟩ _ _ rfl []).2 (.otherCall nofun)
  have two := (due (history.take 2) ⟨1⟩ _ _ rfl []).2
    (.noSession fun last session latest => Option.some.inj latest ▸ nothing rfl session)
  have three := (due (history.take 3) ⟨0⟩ _ _ rfl made).2
    (.resolving rfl ((Call.captured?_eq_some _ session).1 rfl) searched_team)
  have four := (due (history.take 4) ⟨0⟩ _ _ rfl []).2
    (.noSession fun last session latest => Option.some.inj latest ▸ nothing rfl session)
  have whole : pieces = [[], [], [], made, []] := by
    match pieces, length with
    | [_, _, _, _, _], _ =>
      cases zero; cases one; cases two; cases three; cases four
      rfl
  refine ⟨records, ?_⟩
  rw [shows, whole]
  rfl

end Example

end Resolver

end ListExpansion
