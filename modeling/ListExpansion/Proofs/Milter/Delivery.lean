/-
# ListExpansion.Proofs.Milter.Delivery -- whom the mail server is asked to add

That every end of message of every connection comes to what is specified (`Expanded`),
whatever the other connections do meanwhile, is an invariant of the traffic
(`Traffic.Kept`).  No two connections have the same transaction, so a connection finds in
the map what its own callbacks left there, and each move is a matter of one connection
(`Kept.moved`).
-/
import ListExpansion.Proofs.Milter.Outcome

namespace ListExpansion

set_option autoImplicit false

/-- A MAIL feeds the map one event, for the connection's own transaction, which is a new one
if it has none yet. -/
theorem Filter.onMail_cases {σ : Type} (filter : Filter σ) (grants : CapturedPart → Bool)
    (transaction : Option TransactionId) (arguments : List Bytes) (account : Option Bytes) :
    ∃ id issued,
      (filter.onMail grants transaction arguments account).2.1 = id ∧
      (filter.onMail grants transaction arguments account).2.2.1 =
        ⟨(filter.resolver.advance id
          (Resolver.Call.sender grants (arguments.headD []) account).event).1,
          filter.directory, issued⟩ ∧
      (transaction = some id ∧ issued = filter.issued ∨
        id = ⟨filter.issued⟩ ∧ issued = filter.issued + 1) := by
  cases transaction with
  | some id =>
      have moved := Resolver.onSender_transactions grants filter.resolver id (arguments.headD [])
        account
      refine ⟨id, filter.issued, rfl, ?_, .inl ⟨rfl, rfl⟩⟩
      rw [← moved]
      rfl
  | none =>
      have moved := Resolver.onSender_transactions grants filter.resolver ⟨filter.issued⟩
        (arguments.headD []) account
      refine ⟨⟨filter.issued⟩, filter.issued + 1, rfl, ?_, .inr ⟨rfl, rfl⟩⟩
      rw [← moved]
      rfl

/-- Nobody but the connection's own transaction notices its events. -/
theorem Resolver.state_advance_others {resolver : Resolver} {transaction : Option TransactionId}
    {id : TransactionId} (named : transaction = some id) (event : TransactionEvent)
    (other : TransactionId) (ne : transaction ≠ some other) :
    (resolver.advance id event).1.transactions.state other =
      resolver.transactions.state other := by
  have different : other ≠ id := fun same => ne (named.trans (congrArg some same.symm))
  exact resolver.transactions.state_advance_of_ne different event

namespace Milter

/-! ## What a connection keeps to -/

/-- Every end of message served so far met the specification. -/
def Faithful (lookups : Lookups) (served : List Served) : Prop :=
  ∀ before one after, served = before ++ one :: after → one.callback = .endOfMessage →
    Expanded lookups (due before) one.found one.asked one.verdict

theorem Faithful.concat {lookups : Lookups} {served : List Served} {last : Served}
    (faithful : Faithful lookups served)
    (comes : last.callback = .endOfMessage →
      Expanded lookups (due served) last.found last.asked last.verdict) :
    Faithful lookups (served ++ [last]) := by
  intro before one after split_ ends
  rcases List.eq_nil_or_concat after with rfl | ⟨later, final, rfl⟩
  · obtain ⟨rfl, same⟩ := List.append_inj' split_ rfl
    cases same
    exact comes ends
  · rw [List.concat_eq_append, ← List.cons_append, ← List.append_assoc] at split_
    obtain ⟨rfl, -⟩ := List.append_inj' split_ rfl
    exact faithful before one later rfl ends

/-- What the map holds for a connection: nothing once its end of message is under way, else
what is due. -/
def Line.held (line : Line) : TransactionState :=
  if line.ending.isSome then .idle else ((due line.served).map .captured).getD .idle

/-- A connection has a transaction since its first MAIL, and the map holds for it what its
own callbacks left there. -/
structure Line.Kept (lookups : Lookups) (transactions : Transactions) (line : Line) : Prop where
  named : line.transaction.isSome = line.served.any fun one => one.callback.isMail
  unnamed : line.transaction = none → line.ending = none
  state : ∀ id, line.transaction = some id → transactions.state id = line.held
  ending : ∀ ending, line.ending = some ending →
    Underway lookups (due line.served) ending.phase ending.found ending.asked
  faithful : Faithful lookups line.served

namespace Line.Kept

variable {lookups : Lookups} {transactions : Transactions} {line : Line}

theorem start (lookups : Lookups) (transactions : Transactions) :
    Line.Kept lookups transactions ⟨none, none, []⟩ where
  named := rfl
  unnamed _ := rfl
  state _ there := nomatch there
  ending _ there := nomatch there
  faithful before one after split_ := by simp at split_

/-- A connection notices its own entry of the map only. -/
theorem congr (kept : line.Kept lookups transactions) {others : Transactions}
    (same : ∀ id, line.transaction = some id → others.state id = transactions.state id) :
    line.Kept lookups others :=
  { kept with state := fun id there => (same id there).trans (kept.state id there) }

/-- After a MAIL the map holds what it captured. -/
theorem mail (kept : line.Kept lookups transactions) {id : TransactionId} {last : Served}
    {after : Transactions} (isMail : last.callback.isMail = true)
    (state : after.state id = (last.callback.meaning.captured?.map .captured).getD .idle) :
    Line.Kept lookups after ⟨some id, none, line.served ++ [last]⟩ where
  named := by simp [isMail]
  unnamed there := nomatch there
  state _ there := by
    cases there
    simpa [held] using state
  ending _ there := nomatch there
  faithful := kept.faithful.concat fun ends => by simp [ends, Callback.isMail] at isMail

/-- After any other callback it holds nothing. -/
theorem answered (kept : line.Kept lookups transactions) {last : Served} {after : Transactions}
    (other : last.callback.isMail = false)
    (idle : ∀ id, line.transaction = some id → after.state id = .idle)
    (comes : last.callback = .endOfMessage →
      Expanded lookups (due line.served) last.found last.asked last.verdict) :
    (line.answered last).Kept lookups after where
  named := by simp [Line.answered, other, kept.named]
  unnamed _ := rfl
  state id there := by simp [idle id there, held, Line.answered, captured?_of_not_mail other]
  ending _ there := nomatch there
  faithful := kept.faithful.concat comes

/-- While an end of message is under way it holds nothing either. -/
theorem under (kept : line.Kept lookups transactions) {ending : Ending} {after : Transactions}
    (some_ : line.transaction ≠ none)
    (idle : ∀ id, line.transaction = some id → after.state id = .idle)
    (there : Underway lookups (due line.served) ending.phase ending.found ending.asked) :
    Line.Kept lookups after { line with ending := some ending } where
  named := kept.named
  unnamed none_ := absurd none_ some_
  state id named := by simp [idle id named, held]
  ending _ same := by
    cases same
    exact there
  faithful := kept.faithful

end Line.Kept

namespace Traffic

variable {γ σ κ : Type} [DecidableEq γ]

/-- The connections keep apart: each has its own transaction, of those that were given out. -/
structure Kept (lookups : Lookups) (now : Traffic γ σ κ) : Prop where
  resolves : now.filter.resolver.lookups = lookups
  issued : ∀ connection id, (now.lines connection).transaction = some id →
    id.serial < now.filter.issued
  distinct : ∀ one other id, (now.lines one).transaction = some id →
    (now.lines other).transaction = some id → one = other
  line : ∀ connection, (now.lines connection).Kept lookups now.filter.resolver.transactions

variable {lookups : Lookups} {now : Traffic γ σ κ}

omit [DecidableEq γ] in
theorem kept_start (lookups : Lookups) (directory : σ) (server : κ) :
    (start lookups directory server : Traffic γ σ κ).Kept lookups where
  resolves := rfl
  issued _ _ there := nomatch there
  distinct _ _ _ there := nomatch there
  line _ := .start lookups _

/-- What one connection does is its own matter: it changes the map for its own transaction
only, and that it had before or gets now. -/
theorem Kept.moved (kept : now.Kept lookups) {connection : γ} {line : Line} {resolver : Resolver}
    {issued : Nat} (directory : σ) (server : κ) (log : List Event)
    (same : resolver.lookups = lookups)
    (name : line.transaction = (now.lines connection).transaction ∧ issued = now.filter.issued ∨
      line.transaction = some ⟨now.filter.issued⟩ ∧ issued = now.filter.issued + 1)
    (others : ∀ id, line.transaction ≠ some id →
      resolver.transactions.state id = now.filter.resolver.transactions.state id)
    (own : line.Kept lookups resolver.transactions) :
    Kept lookups ⟨⟨resolver, directory, issued⟩, server,
      Function.update now.lines connection line, log⟩ := by
  have foreign {other : γ} (ne : other ≠ connection) {id : TransactionId}
      (there : (now.lines other).transaction = some id) : line.transaction ≠ some id := by
    rcases name with ⟨old, -⟩ | ⟨new, -⟩
    · intro here
      exact ne (kept.distinct other connection id there (old.symm.trans here))
    · intro here
      have earlier := kept.issued other id there
      cases new.symm.trans here
      exact Nat.lt_irrefl _ earlier
  refine ⟨same, ?_, ?_, ?_⟩
  · intro other id there
    dsimp only at there ⊢
    by_cases ne : other = connection
    · subst ne
      rw [Function.update_self] at there
      rcases name with ⟨old, rfl⟩ | ⟨new, rfl⟩
      · exact kept.issued other id (old.symm.trans there)
      · cases new.symm.trans there
        exact Nat.lt_succ_self _
    · rw [Function.update_of_ne ne] at there
      have earlier := kept.issued other id there
      rcases name with ⟨-, rfl⟩ | ⟨-, rfl⟩
      · exact earlier
      · exact Nat.lt_succ_of_lt earlier
  · intro one other id there thereToo
    dsimp only at there thereToo
    by_cases ne : one = connection
    · by_cases neToo : other = connection
      · rw [ne, neToo]
      · subst ne
        rw [Function.update_self] at there
        rw [Function.update_of_ne neToo] at thereToo
        exact absurd there (foreign neToo thereToo)
    · rw [Function.update_of_ne ne] at there
      by_cases neToo : other = connection
      · subst neToo
        rw [Function.update_self] at thereToo
        exact absurd thereToo (foreign ne there)
      · rw [Function.update_of_ne neToo] at thereToo
        exact kept.distinct one other id there thereToo
  · intro other
    dsimp only
    by_cases ne : other = connection
    · subst ne
      rw [Function.update_self]
      exact own
    · rw [Function.update_of_ne ne]
      exact (kept.line other).congr fun id there => others id (foreign ne there)

/-- A callback other than a MAIL is answered, with nothing left of what was captured. -/
theorem Kept.answered (kept : now.Kept lookups) {connection : γ} {last : Served}
    {resolver : Resolver} (directory : σ) (server : κ) (log : List Event)
    (same : resolver.lookups = lookups) (other : last.callback.isMail = false)
    (idle : ∀ id, (now.lines connection).transaction = some id →
      resolver.transactions.state id = .idle)
    (others : ∀ id, (now.lines connection).transaction ≠ some id →
      resolver.transactions.state id = now.filter.resolver.transactions.state id)
    (comes : last.callback = .endOfMessage →
      Expanded lookups (due (now.lines connection).served) last.found last.asked last.verdict) :
    (Traffic.answered ⟨⟨resolver, directory, now.filter.issued⟩, server, now.lines, log⟩
      connection last).Kept lookups :=
  kept.moved directory server log same (.inl ⟨rfl, rfl⟩) others
    ((kept.line connection).answered other idle comes)

/-! ## Every move keeps the connections to it -/

theorem kept_mail (kept : now.Kept lookups) {connection : γ}
    (idle : (now.lines connection).ending = none) (grants : CapturedPart → Bool)
    (arguments : List Bytes) (account : Option Bytes) :
    (now.call connection (.mail grants arguments account)).Kept lookups := by
  obtain ⟨id, issued, gets, moves, name⟩ := now.filter.onMail_cases grants
    (now.lines connection).transaction arguments account
  rw [call_mail idle]
  dsimp only
  rw [gets, moves, idle]
  refine kept.moved _ _ _ kept.resolves ?_ (Resolver.state_advance_others rfl _)
    ((kept.line connection).mail rfl (Resolver.state_call _ id _))
  rcases name with ⟨old, same⟩ | ⟨rfl, next⟩
  · exact .inl ⟨old.symm, same⟩
  · exact .inr ⟨rfl, next⟩

theorem kept_endOfMessage (kept : now.Kept lookups) {connection : γ}
    (idle : (now.lines connection).ending = none) :
    (now.call connection .endOfMessage).Kept lookups := by
  have own := kept.line connection
  cases named : (now.lines connection).transaction with
  | none =>
      rw [call_unnamed idle named]
      refine kept.answered _ _ _ kept.resolves rfl ?_ (fun _ _ => rfl) fun _ => ?_
      · intro id there
        exact nomatch named.symm.trans there
      · have noMail := own.named
        rw [named] at noMail
        rw [due_of_no_mail noMail.symm]
        exact .nothingDue
  | some id =>
      rw [call_endOfMessage idle named]
      have held := own.state id named
      rw [Line.held, idle] at held
      have handed : (now.filter.resolver.leave id).2 = due (now.lines connection).served :=
        Resolver.leave_handed held
      refine kept.moved _ _ _ kept.resolves (.inl ⟨rfl, rfl⟩)
        (Resolver.state_advance_others named _) (own.under (by simp [named]) ?_ ?_)
      · intro mine there
        cases named.symm.trans there
        exact Resolver.state_call _ id .endOfTransaction
      · rw [handed]
        exact .first lookups _

theorem kept_discard (kept : now.Kept lookups) {connection : γ}
    (idle : (now.lines connection).ending = none) {callback : Callback}
    (discards : callback = .abort ∨ callback = .close) :
    (now.call connection callback).Kept lookups := by
  have other : callback.isMail = false := by rcases discards with rfl | rfl <;> rfl
  have noEnd : callback ≠ .endOfMessage := by rcases discards with rfl | rfl <;> simp
  rw [call_discard idle discards]
  cases named : (now.lines connection).transaction with
  | none =>
      refine kept.answered _ _ _ kept.resolves other ?_ (fun _ _ => rfl)
        fun ends => absurd ends noEnd
      intro id there
      exact nomatch named.symm.trans there
  | some id =>
      refine kept.answered _ _ _ kept.resolves other ?_ (Resolver.state_advance_others named .abort)
        fun ends => absurd ends noEnd
      intro mine there
      cases named.symm.trans there
      exact Resolver.state_call _ id .abort

theorem kept_call (kept : now.Kept lookups) (connection : γ) (callback : Callback) :
    (now.call connection callback).Kept lookups := by
  by_cases busy : (now.lines connection).ending ≠ none
  · rwa [call_busy busy]
  · have idle : (now.lines connection).ending = none := not_not.1 busy
    cases callback with
    | mail grants arguments account => exact kept_mail kept idle grants arguments account
    | endOfMessage => exact kept_endOfMessage kept idle
    | abort => exact kept_discard kept idle (.inl rfl)
    | close => exact kept_discard kept idle (.inr rfl)

theorem kept_proceed (directory : Directory σ) (sink : γ → Sink κ) (kept : now.Kept lookups)
    (connection : γ) : (now.proceed directory sink connection).Kept lookups := by
  have own := kept.line connection
  cases there : (now.lines connection).ending with
  | none => rwa [proceed_idle directory sink there]
  | some ending =>
      have busy := own.ending ending there
      have named : (now.lines connection).transaction ≠ none := fun unnamed =>
        nomatch there.symm.trans (own.unnamed unnamed)
      have idle (id : TransactionId) (mine : (now.lines connection).transaction = some id) :
          now.filter.resolver.transactions.state id = .idle := by
        rw [own.state id mine, Line.held, there]
        rfl
      obtain ⟨id, phase, found, asked⟩ := ending
      cases phase with
      | resolving stage =>
          rw [proceed_stage directory sink there]
          refine kept.moved _ _ _ kept.resolves (.inl ⟨rfl, rfl⟩) (fun _ _ => rfl)
            (own.under named idle ?_)
          rw [kept.resolves]
          exact busy.step directory id _
      | offering verdict left =>
          cases left with
          | nil =>
              rw [proceed_answer directory sink there]
              exact kept.answered _ _ _ kept.resolves rfl idle (fun _ _ => rfl)
                fun _ => busy.answer
          | cons recipient left =>
              rw [proceed_offer directory sink there]
              exact kept.moved _ _ _ kept.resolves (.inl ⟨rfl, rfl⟩) (fun _ _ => rfl)
                (own.under named idle busy.offer)

theorem kept_run (directory : Directory σ) (sink : γ → Sink κ) (kept : now.Kept lookups)
    (moves : List (Move γ)) : (now.run directory sink moves).Kept lookups := by
  induction moves generalizing now with
  | nil => exact kept
  | cons move moves ih =>
      cases move with
      | call connection callback => exact ih (kept_call kept connection callback)
      | proceed connection => exact ih (kept_proceed directory sink kept connection)

/-- **Every end of message asks for the expansion of its own connection's MAIL**, whatever
the connections do and however their callbacks come between each other.  What is asked for
is in ascending order, each recipient once: the members of the list that have no NUL and are
not owned by the account, if the callback before was a MAIL that captured its sender and
account and both lookups succeeded.  In all other cases nobody is asked for.

A callback other than a MAIL that comes before the first MAIL is answered, and that is all. -/
theorem recipients_asked (directory : Directory σ) (sink : γ → Sink κ) (lookups : Lookups)
    (state : σ) (server : κ) (moves : List (Move γ)) (connection : γ) :
    let now := (start lookups state server).run directory sink moves
    (∀ before one after, (now.lines connection).served = before ++ one :: after →
      one.callback = .endOfMessage →
        one.asked.Pairwise (· < ·) ∧
        (∀ address, address ∈ one.asked ↔ ∃ session members owned, Captured before session ∧
          one.found = [⟨lookups.list, session.sender, .ok members⟩,
            ⟨lookups.account, session.account, .ok owned⟩] ∧
          address ∈ members.toList ∧ address ∉ owned.toList ∧ 0 ∉ address) ∧
        Expanded lookups (due before) one.found one.asked one.verdict) ∧
    ((∀ one ∈ (now.lines connection).served, one.callback.isMail = false) →
      ∀ callback, callback.isMail = false →
        now.call connection callback = now.answered connection ⟨callback, [], [], .proceed⟩) := by
  intro now
  have kept : now.Kept lookups :=
    kept_run directory sink (kept_start lookups state server) moves
  have own := kept.line connection
  refine ⟨?_, ?_⟩
  · intro before one after split_ ends
    have comes := own.faithful before one after split_ ends
    refine ⟨comes.strict, fun address => ?_, comes⟩
    rw [comes.mem_asked]
    simp only [due_eq_some]
  · intro noMail callback other
    have unnamed : (now.lines connection).transaction = none := by
      rw [← Option.not_isSome_iff_eq_none, own.named, List.any_eq_true]
      rintro ⟨one, member, isMail⟩
      rw [noMail one member] at isMail
      cases isMail
    have idle := own.unnamed unnamed
    cases callback with
    | mail grants arguments account => cases other
    | endOfMessage => exact call_unnamed idle unnamed
    | abort => rw [call_discard idle (.inl rfl), unnamed]; simp [Filter.onDiscard]
    | close => rw [call_discard idle (.inr rfl), unnamed]; simp [Filter.onDiscard]

end Traffic

/-! ## A list, an account and a second connection -/

namespace Example

open Resolver.Example (lookups session owned)

def granted : CapturedPart → Bool := fun _ => true

/-- One of the members cannot travel and another one is the account's. -/
def members : AddressSet := .ofList [[0x62], [0x64, 0x00], [0x61]]

def directory : PreparedDirectory :=
  (PreparedDirectory.empty.prepare "ou=lists,dc=x" "(mail=t@x)" (.values members.toList)).prepare
    "ou=people" "(uid=al)" (.values owned.toList)

def accepting : Sink Unit := ⟨fun _ _ => (.ok (), ())⟩

/-- The second connection has a MAIL and an abort while the first one waits. -/
def opening : List (Move Bool) :=
  [.call true (.mail granted [session.sender] (some session.account)),
    .call false (.mail granted [[0x3C, 0x3E]] (some session.account)),
    .call true .endOfMessage, .proceed true, .call false .abort, .proceed true, .proceed true]

def opened : Traffic Bool PreparedDirectory Unit :=
  (Traffic.start lookups directory ()).run PreparedDirectory.asDirectory (fun _ => accepting) opening

/-- Two searches later the first connection has two recipients to offer. -/
theorem opened_line :
    opened.lines true = ⟨some ⟨0⟩,
      some ⟨⟨0⟩, .offering .proceed (members.sort.sweep owned.sort).toList,
        [⟨lookups.list, session.sender, .ok members⟩,
          ⟨lookups.account, session.account, .ok owned⟩], []⟩,
      [⟨.mail granted [session.sender] (some session.account), [], [], .proceed⟩]⟩ := by
  rfl

theorem recipients_asked_team :
    let now := opened.proceeds PreparedDirectory.asDirectory (fun _ => accepting) true 3
    ∃ mail one, (now.lines true).served = [mail, one] ∧ one.callback = .endOfMessage ∧
      one.asked = [[0x62]] ∧ Expanded lookups (due [mail]) one.found one.asked one.verdict := by
  intro now
  have expansion : Expansion members owned [[0x62], [0x64, 0x00]] := by
    refine ⟨by decide, fun address => ?_⟩
    simp [members, owned, AddressSet.ofList, AddressSet.toList]
    grind
  have swept : (members.sort.sweep owned.sort).toList = [[0x62], [0x64, 0x00]] :=
    (expansion_sweep members owned).unique expansion
  have offering := congrArg Line.ending opened_line
  rw [swept] at offering
  have ended : now = _ :=
    Traffic.proceeds_offering PreparedDirectory.asDirectory (fun _ => accepting) offering
  have served : (now.lines true).served =
      [⟨.mail granted [session.sender] (some session.account), [], [], .proceed⟩,
        ⟨.endOfMessage, [⟨lookups.list, session.sender, .ok members⟩,
          ⟨lookups.account, session.account, .ok owned⟩], [[0x62]], .proceed⟩] := by
    rw [ended]
    simp only [Traffic.answered, Line.answered, Function.update_self, opened_line]
    rfl
  have whole : now = (Traffic.start lookups directory ()).run PreparedDirectory.asDirectory
      (fun _ => accepting) (opening ++ List.replicate 3 (.proceed true)) := by
    simp only [now, opened, Traffic.proceeds, Traffic.run, List.foldl_append]
  obtain ⟨asks, -⟩ := Traffic.recipients_asked PreparedDirectory.asDirectory
    (fun _ => accepting) lookups directory () (opening ++ List.replicate 3 (.proceed true)) true
  rw [← whole] at asks
  exact ⟨_, _, served, rfl, rfl, (asks [_] _ [] served rfl).2.2⟩

end Example

end Milter

end ListExpansion
