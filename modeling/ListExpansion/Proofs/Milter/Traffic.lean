/-
# ListExpansion.Proofs.Milter.Traffic -- many connections at once

In `Traffic` any number of connections share one filter.  The mail server makes the
callbacks of a connection one after another, but an end of message waits for the directory
and for the mail server, and other connections go on meanwhile.  A move is therefore
either a callback that begins (`call`) or one more step of an end of message under way
(`proceed`): a stage of its resolution, one recipient offered, or the verdict.  A callback
that is made while another one of its connection is under way is not begun.

A connection keeps what was served to it, with the lookups made and the recipients asked
for on the way.  `endOfMessage_undisturbed` says that an end of message whose moves follow
one another is `Filter.onEndOfMessage`.
-/
import ListExpansion.Milter.Callbacks
import ListExpansion.Proofs.Milter.Recipients
import ListExpansion.Proofs.Resolver.History
import Mathlib.Logic.Function.Basic

namespace ListExpansion

set_option autoImplicit false

/-- A lookup and how it went. -/
structure Lookup where
  query : Query
  address : Bytes
  outcome : Except DirectoryError AddressSet

/-- The lookup that a step of the stage makes. -/
def Stage.made {σ : Type} (directory : Directory σ) (lookups : Lookups) (state : σ) :
    Stage → List Lookup
  | .listSearch session =>
      [⟨lookups.list, session.sender,
        (directory.lookUp lookups.list session.sender state).1.outcome⟩]
  | .accountSearch session _ =>
      [⟨lookups.account, session.account,
        (directory.lookUp lookups.account session.account state).1.outcome⟩]
  | _ => []

namespace Milter

/-- A callback of the mail server.  `grants` says which copy of a capture gets its memory. -/
inductive Callback where
  | mail (grants : CapturedPart → Bool) (arguments : List Bytes) (account : Option Bytes)
  | endOfMessage
  | abort
  | close

def Callback.isMail : Callback → Bool
  | .mail _ _ _ => true
  | _ => false

/-- What a callback means to the resolver. -/
def Callback.meaning : Callback → Resolver.Call
  | .mail grants arguments account => .sender grants (arguments.headD []) account
  | .endOfMessage => .endOfTransaction
  | .abort | .close => .abort

/-- A callback that was answered: the lookups made for it, the recipients that the mail
server was asked for before the verdict, and the verdict. -/
structure Served where
  callback : Callback
  found : List Lookup
  asked : List Bytes
  verdict : Verdict

/-- How far an end of message has come. -/
inductive Phase where
  | resolving (stage : Stage)
  | offering (verdict : Verdict) (left : List Bytes)

/-- A settled stage has its recipients offered. -/
def Phase.of : Stage → Phase
  | .settled resolution => .offering resolution.verdict resolution.recipients.toList
  | stage => .resolving stage

theorem Phase.of_cases (stage : Stage) :
    (∃ resolution, stage = .settled resolution) ∨ Phase.of stage = .resolving stage := by
  cases stage with
  | settled resolution => exact .inl ⟨resolution, rfl⟩
  | listSearch session => exact .inr rfl
  | accountSearch session members => exact .inr rfl
  | finish session members owned => exact .inr rfl

/-- An end of message under way, with the lookups made and the recipients asked for so far. -/
structure Ending where
  id : TransactionId
  phase : Phase
  found : List Lookup
  asked : List Bytes

/-- One connection.  Its callbacks are answered in order, so one end of message at most is
under way. -/
structure Line where
  transaction : Option TransactionId
  ending : Option Ending
  served : List Served

/-- The callback is answered; an end of message is no longer under way. -/
def Line.answered (line : Line) (served : Served) : Line :=
  { line with ending := none, served := line.served ++ [served] }

structure Traffic (γ σ κ : Type) where
  filter : Filter σ
  server : κ
  lines : γ → Line
  log : List Event

inductive Move (γ : Type) where
  | call (connection : γ) (callback : Callback)
  | proceed (connection : γ)

namespace Traffic

variable {γ σ κ : Type} [DecidableEq γ] (directory : Directory σ) (sink : γ → Sink κ)

omit [DecidableEq γ] in
def start (lookups : Lookups) (directory : σ) (server : κ) : Traffic γ σ κ :=
  ⟨.new lookups directory, server, fun _ => ⟨none, none, []⟩, []⟩

/-- The callback is answered, and nothing else happens. -/
def answered (now : Traffic γ σ κ) (connection : γ) (served : Served) : Traffic γ σ κ :=
  { now with
    lines := Function.update now.lines connection ((now.lines connection).answered served) }

/-- A callback begins.  All but an end of message are answered at once. -/
def call (now : Traffic γ σ κ) (connection : γ) (callback : Callback) : Traffic γ σ κ :=
  let line := now.lines connection
  if line.ending.isSome then now
  else
    match callback with
    | .mail grants arguments account =>
        let (verdict, id, filter, events) :=
          now.filter.onMail grants line.transaction arguments account
        { now with
          filter
          lines := Function.update now.lines connection
            { line with
              transaction := some id
              served := line.served ++ [⟨callback, [], [], verdict⟩] }
          log := now.log ++ events }
    | .endOfMessage =>
        match line.transaction with
        | none => now.answered connection ⟨callback, [], [], .proceed⟩
        | some id =>
            let (resolver, session) := now.filter.resolver.leave id
            { now with
              filter := { now.filter with resolver }
              lines := Function.update now.lines connection
                { line with ending := some ⟨id, .of (.first session), [], []⟩ } }
    | .abort | .close =>
        let (verdict, filter, events) := now.filter.onDiscard line.transaction
        { now with filter, log := now.log ++ events }.answered connection
          ⟨callback, [], [], verdict⟩

/-- One more step of the end of message under way. -/
def proceed (now : Traffic γ σ κ) (connection : γ) : Traffic γ σ κ :=
  let line := now.lines connection
  match line.ending with
  | none => now
  | some ending =>
      match ending.phase with
      | .resolving stage =>
          let lookups := now.filter.resolver.lookups
          let (next, state, events) := stage.step directory lookups ending.id now.filter.directory
          let found := ending.found ++ stage.made directory lookups now.filter.directory
          { now with
            filter := { now.filter with directory := state }
            lines := Function.update now.lines connection
              { line with ending := some { ending with phase := .of next, found } }
            log := now.log ++ events }
      | .offering verdict (recipient :: left) =>
          let (outcome, server, asked) :=
            (sink connection).recording.offer recipient (now.server, ending.asked)
          { now with
            server
            lines := Function.update now.lines connection
              { line with ending := some { ending with phase := .offering verdict left, asked } }
            log := now.log ++ [offerEvent ending.id recipient outcome] }
      | .offering verdict [] =>
          now.answered connection ⟨.endOfMessage, ending.found, ending.asked, verdict⟩

def move (now : Traffic γ σ κ) : Move γ → Traffic γ σ κ
  | .call connection callback => now.call connection callback
  | .proceed connection => now.proceed directory sink connection

/-- The traffic after these moves. -/
def run (now : Traffic γ σ κ) (moves : List (Move γ)) : Traffic γ σ κ :=
  moves.foldl (move directory sink) now

/-! ## What a move does -/

section Moves

variable {now : Traffic γ σ κ} {connection : γ} {id : TransactionId} {found : List Lookup}
  {asked : List Bytes}

theorem call_busy (busy : (now.lines connection).ending ≠ none) (callback : Callback) :
    now.call connection callback = now := by
  have some_ : (now.lines connection).ending.isSome = true := Option.isSome_iff_ne_none.2 busy
  simp only [call, some_, if_true]

theorem call_mail (idle : (now.lines connection).ending = none) (grants : CapturedPart → Bool)
    (arguments : List Bytes) (account : Option Bytes) :
    now.call connection (.mail grants arguments account) =
      let done := now.filter.onMail grants (now.lines connection).transaction arguments account
      { now with
        filter := done.2.2.1
        lines := Function.update now.lines connection
          { now.lines connection with
            transaction := some done.2.1
            served := (now.lines connection).served ++
              [⟨.mail grants arguments account, [], [], done.1⟩] }
        log := now.log ++ done.2.2.2 } := by
  simp [call, idle]

theorem call_unnamed (idle : (now.lines connection).ending = none)
    (unnamed : (now.lines connection).transaction = none) :
    now.call connection .endOfMessage =
      now.answered connection ⟨.endOfMessage, [], [], .proceed⟩ := by
  simp [call, idle, unnamed]

theorem call_endOfMessage (idle : (now.lines connection).ending = none)
    (named : (now.lines connection).transaction = some id) :
    now.call connection .endOfMessage =
      { now with
        filter := { now.filter with resolver := (now.filter.resolver.leave id).1 }
        lines := Function.update now.lines connection
          { now.lines connection with
            ending := some ⟨id, .of (.first (now.filter.resolver.leave id).2), [], []⟩ } } := by
  simp [call, idle, named]

theorem call_discard (idle : (now.lines connection).ending = none) {callback : Callback}
    (discards : callback = .abort ∨ callback = .close) :
    now.call connection callback =
      let done := now.filter.onDiscard (now.lines connection).transaction
      { now with filter := done.2.1, log := now.log ++ done.2.2 }.answered connection
        ⟨callback, [], [], done.1⟩ := by
  rcases discards with rfl | rfl <;> simp [call, idle]

theorem proceed_idle (idle : (now.lines connection).ending = none) :
    now.proceed directory sink connection = now := by
  simp only [proceed, idle]

theorem proceed_stage {stage : Stage}
    (there : (now.lines connection).ending = some ⟨id, .resolving stage, found, asked⟩) :
    now.proceed directory sink connection =
      let lookups := now.filter.resolver.lookups
      let next := stage.step directory lookups id now.filter.directory
      { now with
        filter := { now.filter with directory := next.2.1 }
        lines := Function.update now.lines connection
          { now.lines connection with
            ending := some ⟨id, .of next.1,
              found ++ stage.made directory lookups now.filter.directory, asked⟩ }
        log := now.log ++ next.2.2 } := by
  simp only [proceed, there]

theorem proceed_offer {verdict : Verdict} {recipient : Bytes} {left : List Bytes}
    (there : (now.lines connection).ending =
      some ⟨id, .offering verdict (recipient :: left), found, asked⟩) :
    now.proceed directory sink connection =
      let offered := (sink connection).offer recipient now.server
      { now with
        server := offered.2
        lines := Function.update now.lines connection
          { now.lines connection with
            ending := some ⟨id, .offering verdict left, found, asked ++ travelling [recipient]⟩ }
        log := now.log ++ [offerEvent id recipient offered.1] } := by
  simp only [proceed, there, Sink.offer_recording]

theorem proceed_answer {verdict : Verdict}
    (there : (now.lines connection).ending = some ⟨id, .offering verdict [], found, asked⟩) :
    now.proceed directory sink connection =
      now.answered connection ⟨.endOfMessage, found, asked, verdict⟩ := by
  simp only [proceed, there]

end Moves

/-! ## An end of message that nothing comes between -/

section Undisturbed

variable {now : Traffic γ σ κ} {connection : γ} {id : TransactionId} {found : List Lookup}
  {asked : List Bytes}

/-- So many moves that follow one another. -/
def proceeds (now : Traffic γ σ κ) (connection : γ) (count : Nat) : Traffic γ σ κ :=
  now.run directory sink (List.replicate count (.proceed connection))

theorem proceeds_succ (count : Nat) :
    now.proceeds directory sink connection (count + 1) =
      (now.proceed directory sink connection).proceeds directory sink connection count := rfl

/-- The moves that offer the rest and answer. -/
theorem proceeds_offering {verdict : Verdict} {left : List Bytes}
    (there : (now.lines connection).ending = some ⟨id, .offering verdict left, found, asked⟩) :
    now.proceeds directory sink connection (left.length + 1) =
      let handover := (sink connection).addAll id left now.server
      { now with server := handover.sink, log := now.log ++ handover.events }.answered connection
        ⟨.endOfMessage, found, asked ++ travelling left, verdict⟩ := by
  induction left generalizing now asked with
  | nil =>
      rw [proceeds_succ, proceed_answer directory sink there]
      simp [proceeds, run, answered, Sink.addAll, travelling]
  | cons recipient left ih =>
      rw [List.length_cons, proceeds_succ, proceed_offer directory sink there,
        @ih _ (asked ++ travelling [recipient]) (by simp)]
      simp [answered, Line.answered, Sink.addAll, travelling_cons recipient left]

/-- The moves that resolve what is left and come to the offering. -/
theorem proceeds_resolving (stage : Stage)
    (there : (now.lines connection).ending = some ⟨id, .of stage, found, asked⟩) :
    ∃ count later,
      now.proceeds directory sink connection count =
        let ended := stage.complete directory now.filter.resolver.lookups id now.filter.directory
        { now with
          filter := { now.filter with directory := ended.2.1 }
          lines := Function.update now.lines connection
            { now.lines connection with
              ending := some ⟨id, .offering ended.1.verdict ended.1.recipients.toList, later,
                asked⟩ }
          log := now.log ++ ended.2.2 } := by
  obtain ⟨⟨resolver, state, issued⟩, server, lines, log⟩ := now
  dsimp only at there ⊢
  refine Stage.induction_on_steps directory resolver.lookups id state
    (motive := fun stage state => ∀ lines log found,
      (lines connection).ending = some ⟨id, .of stage, found, asked⟩ → ∃ count later,
        proceeds directory sink ⟨⟨resolver, state, issued⟩, server, lines, log⟩ connection count =
          let ended := stage.complete directory resolver.lookups id state
          ⟨⟨resolver, ended.2.1, issued⟩, server,
            Function.update lines connection
              { lines connection with
                ending := some ⟨id, .offering ended.1.verdict ended.1.recipients.toList, later,
                  asked⟩ },
            log ++ ended.2.2⟩)
    ?_ ?_ stage lines log found there
  · intro resolution state lines log found there
    have same : { lines connection with
        ending := some ⟨id, .offering resolution.verdict resolution.recipients.toList, found,
          asked⟩ } = lines connection :=
      congrArg (fun ending => { lines connection with ending }) there.symm
    refine ⟨0, found, ?_⟩
    simp only [Stage.complete_settled, same, Function.update_eq_self, List.append_nil]
    rfl
  · intro stage state rest lines log found there
    rcases Phase.of_cases stage with ⟨resolution, rfl⟩ | unsettled
    · exact rest lines log found there
    · rw [unsettled] at there
      let next := stage.step directory resolver.lookups id state
      let line : Line :=
        { lines connection with
          ending := some ⟨id, .of next.1, found ++ stage.made directory resolver.lookups state,
            asked⟩ }
      obtain ⟨count, later, onward⟩ := rest (Function.update lines connection line)
        (log ++ next.2.2) _ (by rw [Function.update_self])
      refine ⟨count + 1, later, ?_⟩
      rw [proceeds_succ, proceed_stage directory sink there, Stage.complete_step]
      dsimp only
      rw [onward]
      simp [line, next]

theorem proceeds_add (first second : Nat) :
    now.proceeds directory sink connection (first + second) =
      (now.proceeds directory sink connection first).proceeds directory sink connection second := by
  simp only [proceeds, run, ← List.replicate_append_replicate, List.foldl_append]

/-- **An end of message that nothing comes between is the callback of the filter.** -/
theorem endOfMessage_undisturbed (idle : (now.lines connection).ending = none) :
    ∃ count later,
      (now.call connection .endOfMessage).proceeds directory sink connection count =
        let ended := now.filter.onEndOfMessage directory (sink connection).recording
          (now.lines connection).transaction (now.server, [])
        { now with
          filter := ended.2.2.1
          server := ended.2.1.1
          log := now.log ++ ended.2.2.2 }.answered connection
            ⟨.endOfMessage, later, ended.2.1.2, ended.1⟩ := by
  cases named : (now.lines connection).transaction with
  | none =>
      refine ⟨0, [], ?_⟩
      rw [call_unnamed idle named]
      simp [proceeds, run, Filter.onEndOfMessage]
  | some id =>
      have begun := call_endOfMessage idle named
      have first : ((now.call connection .endOfMessage).lines connection).ending =
          some ⟨id, .of (.first (now.filter.resolver.leave id).2), [], []⟩ := by
        rw [begun]
        simp
      obtain ⟨count, later, resolved⟩ := proceeds_resolving directory sink _ first
      let ended := (Stage.first (now.filter.resolver.leave id).2).complete directory
        now.filter.resolver.lookups id now.filter.directory
      have lookups : (now.filter.resolver.leave id).1.lookups = now.filter.resolver.lookups := rfl
      rw [begun] at resolved
      dsimp only at resolved
      rw [lookups, ← begun] at resolved
      have offering : (((now.call connection .endOfMessage).proceeds directory sink connection
          count).lines connection).ending =
            some ⟨id, .offering ended.1.verdict ended.1.recipients.toList, later, []⟩ := by
        rw [resolved]
        simp [ended]
      have whole := Resolver.onEndOfTransaction_first directory now.filter.resolver id
        now.filter.directory
      refine ⟨count + (ended.1.recipients.toList.length + 1), later, ?_⟩
      rw [proceeds_add, proceeds_offering directory sink offering, resolved]
      simp [Filter.onEndOfMessage, whole, Sink.addAll_recording, answered, Line.answered, ended]

end Undisturbed

end Traffic

end Milter

end ListExpansion
