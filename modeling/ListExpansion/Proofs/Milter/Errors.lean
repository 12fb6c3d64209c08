/-
# ListExpansion.Proofs.Milter.Errors -- the ERRORs of a whole run

`Befalls` says what trouble a move of the traffic meets: a MAIL whose capture gets no
memory, a lookup that fails, a recipient that is not added.  One move meets one trouble at
most (`Befalls.unique`).

A move logs just the trouble that it meets, besides what the directory itself logs
(`move_reports`).  So the ERRORs of a run are the troubles of its moves, one for one and in
order, however many connections there are and however they come between each other
(`errors_logged`).
-/
import ListExpansion.Proofs.Milter.Traffic
import ListExpansion.Proofs.Milter.Trouble
import ListExpansion.Proofs.Record

namespace ListExpansion.Milter

set_option autoImplicit false

/-- The ERRORs of one move: the directory's own, and then the trouble that was met. -/
structure Report where
  own : List Event
  trouble : Option Trouble

def Report.events (report : Report) : List Event :=
  report.own ++ (report.trouble.map Trouble.event).toList

/-- Where the directory is silent, all that is told of is trouble. -/
theorem events_of_silent {reports : List Report} (silent : ∀ report ∈ reports, report.own = []) :
    reports.flatMap Report.events = (reports.filterMap Report.trouble).map Trouble.event := by
  induction reports with
  | nil => rfl
  | cons report reports ih =>
      obtain ⟨first, others⟩ := List.forall_mem_cons.1 silent
      rw [List.flatMap_cons, ih others, Report.events, first]
      cases told : report.trouble with
      | none => simp [told]
      | some trouble => simp [told]

namespace Traffic

variable {γ σ κ : Type}

section Specification

variable (directory : Directory σ) (sink : γ → Sink κ) (now : Traffic γ σ κ)

/-- The trouble that a move meets.  A callback is only begun when no end of message of its
connection is under way; an end of message is at a lookup or at the next recipient. -/
inductive Befalls : Move γ → Trouble → Prop
  | capture {connection : γ} {grants : CapturedPart → Bool} {arguments : List Bytes}
      {account : Bytes} (idle : (now.lines connection).ending = none) (given : account ≠ [])
      (named : stripAngleBrackets (arguments.headD []) ≠ [])
      (refused : grants .sender = false ∨ grants .account = false) :
      Befalls (.call connection (.mail grants arguments (some account)))
        (.capture (now.filter.identify (now.lines connection).transaction).1 ⟨.allocatorRefused⟩)
  | resolution {connection : γ} {id : TransactionId} {stage : Stage} {found : List Lookup}
      {asked : List Bytes} {session : Session} {error : DirectoryError}
      (there : (now.lines connection).ending = some ⟨id, .resolving stage, found, asked⟩)
      (fails : LookupFails directory now.filter.resolver.lookups now.filter.directory stage session
        error) :
      Befalls (.proceed connection) (.resolution id session error)
  | recipient {connection : γ} {id : TransactionId} {verdict : Verdict} {recipient : Bytes}
      {left : List Bytes} {found : List Lookup} {asked : List Bytes} {error : RecipientError}
      (there : (now.lines connection).ending =
        some ⟨id, .offering verdict (recipient :: left), found, asked⟩)
      (notAdded : NotAdded (sink connection) now.server recipient error) :
      Befalls (.proceed connection) (.recipient id error)

/-- What the directory itself logs in a move. -/
def told : Move γ → List Event
  | .call _ _ => []
  | .proceed connection =>
      match (now.lines connection).ending with
      | some ⟨_, .resolving stage, _, _⟩ =>
          stage.told directory now.filter.resolver.lookups now.filter.directory
      | _ => []

/-- The report leaves nothing out and makes nothing up. -/
structure Reports (move : Move γ) (report : Report) : Prop where
  own : report.own = errors (now.told directory move)
  trouble : ∀ trouble, report.trouble = some trouble ↔ Befalls directory sink now move trouble

end Specification

section Moves

variable {directory : Directory σ} {sink : γ → Sink κ} {now : Traffic γ σ κ} {move : Move γ}

/-- One move meets one trouble at most. -/
theorem Befalls.unique {one other : Trouble} (first : Befalls directory sink now move one)
    (second : Befalls directory sink now move other) : one = other := by
  cases first with
  | capture _ _ _ _ =>
      cases second with
      | capture _ _ _ _ => rfl
  | resolution there fails =>
      cases second with
      | resolution thereToo failsToo =>
          cases there.symm.trans thereToo
          obtain ⟨rfl, rfl⟩ := fails.unique failsToo
          rfl
      | recipient thereToo _ => cases there.symm.trans thereToo
  | recipient there notAdded =>
      cases second with
      | resolution thereToo _ => cases there.symm.trans thereToo
      | recipient thereToo notAddedToo =>
          cases there.symm.trans thereToo
          rw [notAdded.unique notAddedToo]

theorem Reports.unique {one other : Report} (first : Reports directory sink now move one)
    (second : Reports directory sink now move other) : one = other := by
  obtain ⟨own, trouble?⟩ := one
  obtain ⟨ownToo, trouble?'⟩ := other
  obtain rfl : own = ownToo := first.own.trans second.own.symm
  obtain rfl : trouble? = trouble?' :=
    Option.ext fun trouble => (first.trouble trouble).trans (second.trouble trouble).symm
  rfl

theorem Befalls.reports {trouble : Trouble} (befalls : Befalls directory sink now move trouble) :
    Reports directory sink now move ⟨errors (now.told directory move), some trouble⟩ where
  own := rfl
  trouble other := by
    rw [Option.some.injEq]
    exact ⟨fun same => same ▸ befalls, befalls.unique⟩

theorem reports_untroubled (untroubled : ∀ trouble, ¬ Befalls directory sink now move trouble) :
    Reports directory sink now move ⟨errors (now.told directory move), none⟩ where
  own := rfl
  trouble other := ⟨nofun, fun befalls => absurd befalls (untroubled other)⟩

theorem told_quiet (quiet : directory.Quiet) (move : Move γ) :
    errors (now.told directory move) = [] := by
  cases move with
  | call connection callback => rfl
  | proceed connection =>
      cases there : (now.lines connection).ending with
      | none => simp only [told, there, errors, List.filter_nil]
      | some ending =>
          obtain ⟨id, phase, found, asked⟩ := ending
          cases phase with
          | resolving stage =>
              simp only [told, there]
              exact quiet.told _ _ stage
          | offering verdict left => simp only [told, there, errors, List.filter_nil]

end Moves

/-! ## What a move logs -/

section Log

variable [DecidableEq γ] (directory : Directory σ) (sink : γ → Sink κ) (now : Traffic γ σ κ)

/-- The move logs what its report says. -/
def Logs (move : Move γ) : Prop :=
  ∃ report, Reports directory sink now move report ∧
    errors (now.move directory sink move).log = errors now.log ++ report.events

variable {directory sink now} {connection : γ}

/-- A move that meets no trouble logs what the directory does and nothing else. -/
theorem logs_untroubled {move : Move γ}
    (untroubled : ∀ trouble, ¬ Befalls directory sink now move trouble)
    (log : errors (now.move directory sink move).log =
      errors now.log ++ errors (now.told directory move)) : Logs directory sink now move :=
  ⟨_, reports_untroubled untroubled, by rw [log, Report.events]; simp⟩

theorem Befalls.logs {move : Move γ} {trouble : Trouble}
    (befalls : Befalls directory sink now move trouble)
    (log : errors (now.move directory sink move).log =
      errors now.log ++ (errors (now.told directory move) ++ [trouble.event])) :
    Logs directory sink now move :=
  ⟨_, befalls.reports, log⟩

theorem logs_mail (idle : (now.lines connection).ending = none) (grants : CapturedPart → Bool)
    (arguments : List Bytes) (account : Option Bytes) :
    Logs directory sink now (.call connection (.mail grants arguments account)) := by
  have log : errors (now.move directory sink (.call connection (.mail grants arguments account))).log =
      errors now.log ++ errors (now.filter.resolver.onSender grants
        (now.filter.identify (now.lines connection).transaction).1 (arguments.headD [])
        account).2.2 := by
    rw [move, call_mail idle]
    dsimp only
    -- What the mail server told is logged first, but that is a TRACE.
    rw [errors_append]
    cases (now.lines connection).transaction <;> rfl
  rcases onSender_errors grants now.filter.resolver
      (now.filter.identify (now.lines connection).transaction).1 (arguments.headD []) account with
    ⟨given, rfl, some_, named, refused, logged⟩ | ⟨granted, logged⟩
  · exact (Befalls.capture idle some_ named refused).logs (log.trans (congrArg _ logged))
  · refine logs_untroubled ?_ (log.trans (congrArg _ logged))
    intro trouble befalls
    cases befalls with
    | capture _ some_ named refused =>
        obtain ⟨ofSender, ofAccount⟩ := granted _ rfl some_ named
        simp [ofSender, ofAccount] at refused

theorem logs_call (connection : γ) (callback : Callback) :
    Logs directory sink now (.call connection callback) := by
  by_cases busy : (now.lines connection).ending ≠ none
  · refine logs_untroubled ?_ ?_
    · intro trouble befalls
      cases befalls with
      | capture idle _ _ _ => exact busy idle
    · rw [move, call_busy busy]
      exact (List.append_nil _).symm
  · have idle : (now.lines connection).ending = none := not_not.1 busy
    have discarded (discards : callback = .abort ∨ callback = .close) :
        errors (now.move directory sink (.call connection callback)).log = errors now.log ++ [] := by
      rw [move, call_discard idle discards]
      show errors (now.log ++ (now.filter.onDiscard (now.lines connection).transaction).2.2) = _
      rw [errors_append]
      cases (now.lines connection).transaction <;> rfl
    cases callback with
    | mail grants arguments account => exact logs_mail idle grants arguments account
    | endOfMessage =>
        refine logs_untroubled nofun ?_
        cases named : (now.lines connection).transaction with
        | none =>
            rw [move, call_unnamed idle named]
            exact (List.append_nil _).symm
        | some id =>
            rw [move, call_endOfMessage idle named]
            exact (List.append_nil _).symm
    | abort => exact logs_untroubled nofun (discarded (.inl rfl))
    | close => exact logs_untroubled nofun (discarded (.inr rfl))

theorem logs_proceed (connection : γ) : Logs directory sink now (.proceed connection) := by
  cases there : (now.lines connection).ending with
  | none =>
      refine logs_untroubled ?_ ?_
      · rintro trouble (_ | ⟨thereToo, _⟩ | ⟨thereToo, _⟩) <;> cases there.symm.trans thereToo
      · rw [move, proceed_idle directory sink there]
        simp [told, there, errors]
  | some ending =>
      obtain ⟨id, phase, found, asked⟩ := ending
      cases phase with
      | resolving stage =>
          have log := congrArg (errors ·.log) (proceed_stage directory sink there)
          dsimp only at log
          rw [errors_append] at log
          have tells : now.told directory (.proceed connection) =
              stage.told directory now.filter.resolver.lookups now.filter.directory := by
            simp only [told, there]
          rcases stage_errors directory now.filter.resolver.lookups id now.filter.directory stage with
            ⟨session, error, fails, -, logged⟩ | ⟨answered, logged⟩
          · refine (Befalls.resolution there fails).logs ?_
            rw [move, tells, ← logged]
            exact log
          · refine logs_untroubled ?_ ?_
            · rintro trouble (_ | ⟨thereToo, fails⟩ | ⟨thereToo, _⟩)
              · cases there.symm.trans thereToo
                exact answered _ _ fails
              · cases there.symm.trans thereToo
            · rw [move, tells, ← logged]
              exact log
      | offering verdict left =>
          have tells : now.told directory (.proceed connection) = [] := by simp only [told, there]
          cases left with
          | nil =>
              refine logs_untroubled ?_ ?_
              · rintro trouble (_ | ⟨thereToo, _⟩ | ⟨thereToo, _⟩) <;> cases there.symm.trans thereToo
              · rw [tells, move, proceed_answer directory sink there]
                exact (List.append_nil _).symm
          | cons recipient left =>
              have log := congrArg (errors ·.log) (proceed_offer directory sink there)
              dsimp only at log
              rw [errors_append] at log
              rcases offer_errors (sink connection) id recipient now.server with
                ⟨error, notAdded, logged⟩ | ⟨added, logged⟩
              · refine (Befalls.recipient there notAdded).logs ?_
                rw [tells]
                exact log.trans (congrArg _ logged)
              · refine logs_untroubled ?_ ?_
                · rintro trouble (_ | ⟨thereToo, _⟩ | ⟨thereToo, notAdded⟩)
                  · cases there.symm.trans thereToo
                  · cases there.symm.trans thereToo
                    exact added _ notAdded
                · rw [tells]
                  exact log.trans (congrArg _ logged)

/-- Every move logs the trouble that it meets, and no other. -/
theorem move_reports (move : Move γ) : Logs directory sink now move := by
  cases move with
  | call connection callback => exact logs_call connection callback
  | proceed connection => exact logs_proceed connection

/-- A resolution that fails is over: there is nobody to be offered, and the answer comes
next. -/
theorem Befalls.settles {id : TransactionId} {session : Session} {error : DirectoryError}
    (befalls : Befalls directory sink now (.proceed connection) (.resolution id session error)) :
    ∃ earlier failed asked, failed.outcome = .error error ∧
      ((now.proceed directory sink connection).lines connection).ending =
        some ⟨id, .offering error.verdict [], earlier ++ [failed], asked⟩ := by
  cases befalls with
  | @resolution _ _ stage found asked _ _ there fails =>
      have moved := proceed_stage directory sink there
      have settled : (stage.step directory now.filter.resolver.lookups id now.filter.directory).1 =
          .settled ⟨error.verdict, AddressSet.empty⟩ := by
        rcases stage_errors directory now.filter.resolver.lookups id now.filter.directory stage with
          ⟨session', error', failsToo, settled, -⟩ | ⟨answered, -⟩
        · obtain ⟨-, rfl⟩ := fails.unique failsToo
          exact settled
        · exact absurd fails (answered _ _)
      have made : ∃ failed : Lookup, failed.outcome = .error error ∧
          stage.made directory now.filter.resolver.lookups now.filter.directory = [failed] := by
        cases fails with
        | list failed => exact ⟨_, failed, rfl⟩
        | account failed => exact ⟨_, failed, rfl⟩
      obtain ⟨failed, outcome, made⟩ := made
      refine ⟨found, failed, asked, outcome, ?_⟩
      rw [moved]
      dsimp only
      rw [Function.update_self, settled, made]
      rfl

/-- **No trouble is passed over, and nothing else is made an ERROR of.**  Whatever the moves,
the directory and the mail server, the ERRORs logged are those of the troubles that the
moves met, each once and in order, and none besides if the directory logs none of its own.
A resolution that failed is over with that, so there is one for each end of message at most.
The event ends with the text of its error, and that with the result code if there is one. -/
theorem errors_logged (directory : Directory σ) (sink : γ → Sink κ) (lookups : Lookups) (state : σ)
    (server : κ) (moves : List (Move γ)) :
    let after (made : List (Move γ)) := (start lookups state server).run directory sink made
    (∃ reports : List Report, reports.length = moves.length ∧
      errors (after moves).log = reports.flatMap Report.events ∧
      (∀ before move rest, moves = before ++ move :: rest → ∀ report,
        reports[before.length]? = some report ↔ Reports directory sink (after before) move report) ∧
      (directory.Quiet →
        errors (after moves).log = (reports.filterMap Report.trouble).map Trouble.event)) ∧
    (∀ connection id session error,
      Befalls directory sink (after moves) (.proceed connection) (.resolution id session error) →
        ∃ earlier failed asked, failed.outcome = .error error ∧
          ((after (moves ++ [.proceed connection])).lines connection).ending =
            some ⟨id, .offering error.verdict [], earlier ++ [failed], asked⟩) ∧
    ∀ id session error,
      (∃ before, (Trouble.resolution id session error).event.text = before ++ error.message) ∧
        ∀ code, error.code = some code →
          ∃ text, error.message = text ++ (" (" ++ toString code ++ ")") := by
  intro after
  have concat (made : List (Move γ)) (last : Move γ) :
      after (made ++ [last]) = (after made).move directory sink last := by
    simp only [after, run, List.foldl_append, List.foldl_cons, List.foldl_nil]
  refine ⟨?_, ?_, fun id session error => ⟨resolution_text id session error, fun code =>
    error.message_of_code⟩⟩
  · obtain ⟨reports, length, logged, places, members⟩ := exists_additions
      (fun made => errors (after made).log) Report.events
      (fun made last report => Reports directory sink (after made) last report)
      (fun made last => by rw [concat]; exact move_reports last)
      (fun _ _ _ _ => Reports.unique) moves
    refine ⟨reports, length, logged, places, fun quiet => ?_⟩
    refine logged.trans (events_of_silent fun report member => ?_)
    obtain ⟨before, move, rest, -, told⟩ := members report member
    exact told.own.trans (told_quiet quiet move)
  · intro connection id session error befalls
    rw [concat]
    exact befalls.settles

end Log

end Traffic

/-! ## A capture without memory and a list that cannot be searched -/

namespace Example

open Resolver.Example (lookups session)

def unavailable : DirectoryError := .search ⟨some 52, "Server is unavailable"⟩

def unwell : PreparedDirectory :=
  PreparedDirectory.empty.prepare "ou=lists,dc=x" "(mail=t@x)" (.failure unavailable)

def refusing : Sink Unit := ⟨fun _ _ => (.error "refused", ())⟩

/-- The second connection gets no memory for its capture. -/
def ending : List (Move Bool) :=
  [.call true (.mail (fun _ => true) [session.sender] (some session.account)),
    .call false (.mail (fun _ => false) [session.sender] (some session.account)),
    .call true .endOfMessage]

theorem errors_logged_unwell :
    let now := (Traffic.start lookups unwell ()).run PreparedDirectory.asDirectory
      (fun _ => refusing) ending
    PreparedDirectory.asDirectory.Quiet ∧
      Traffic.Befalls PreparedDirectory.asDirectory (fun _ => refusing) now (.proceed true)
        (.resolution ⟨0⟩ session unavailable) ∧
      (∃ reports : List Report, reports[1]? = some ⟨[], some (.capture ⟨1⟩ ⟨.allocatorRefused⟩)⟩ ∧
        errors now.log = (reports.filterMap Report.trouble).map Trouble.event) ∧
      ∃ text, unavailable.message = text ++ " (52)" := by
  intro now
  have listing : (now.lines true).ending =
      some ⟨⟨0⟩, .resolving (.listSearch session), [], []⟩ := rfl
  have failed : (PreparedDirectory.asDirectory.lookUp lookups.list session.sender
      unwell).1.outcome = .error unavailable := rfl
  have resolves : now.filter.resolver.lookups = lookups := rfl
  have asks : now.filter.directory = unwell := rfl
  rw [← resolves, ← asks] at failed
  have befalls : Traffic.Befalls PreparedDirectory.asDirectory (fun _ => refusing) now
      (.proceed true) (.resolution ⟨0⟩ session unavailable) := .resolution listing (.list failed)
  obtain ⟨⟨reports, -, -, places, quiet⟩, -, texts⟩ := Traffic.errors_logged
    PreparedDirectory.asDirectory (fun _ => refusing) lookups unwell () ending
  have capture : Traffic.Befalls PreparedDirectory.asDirectory (fun _ => refusing)
      ((Traffic.start lookups unwell ()).run PreparedDirectory.asDirectory (fun _ => refusing)
        (ending.take 1))
      (.call false (.mail (fun _ => false) [session.sender] (some session.account)))
      (.capture ⟨1⟩ ⟨.allocatorRefused⟩) := .capture rfl nofun nofun (.inl rfl)
  have second := (places (ending.take 1) _ _ rfl _).2 capture.reports
  exact ⟨quiet_prepared, befalls, ⟨reports, second, quiet quiet_prepared⟩,
    (texts ⟨0⟩ session unavailable).2 52 rfl⟩

end Example

end ListExpansion.Milter
