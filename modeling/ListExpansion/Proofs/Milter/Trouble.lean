/-
# ListExpansion.Proofs.Milter.Trouble -- what the filter puts up with

Three things may go wrong without the filter giving up: no memory for a capture, a lookup
that fails, and a recipient that is not added (`Trouble`).  `LookupFails` and `NotAdded`
say when, by what the directory and the mail server answer and not by what is logged.

A sender, a stage and an offer each log one ERROR if they meet trouble and none if they do
not (`onSender_errors`, `stage_errors`, `offer_errors`), apart from what the directory
itself logs while it answers; those at hand log no ERROR (`quiet_prepared`, `quiet_ldap`).
-/
import ListExpansion.Proofs.Ldap.Gathering
import ListExpansion.Proofs.Milter.Recipients
import ListExpansion.Proofs.Resolver.Expansion

namespace ListExpansion

set_option autoImplicit false

/-! ## Events and texts -/

def Event.isError (event : Event) : Bool := decide (event.severity = .error)

/-- The ERRORs among the events. -/
def errors (events : List Event) : List Event := events.filter Event.isError

theorem errors_append (earlier later : List Event) :
    errors (earlier ++ later) = errors earlier ++ errors later :=
  List.filter_append _ _

/-- A failure that has a result code names it at the end, in parentheses. -/
theorem DirectoryError.message_of_code {error : DirectoryError} {code : Nat}
    (coded : error.code = some code) :
    ∃ text, error.message = text ++ (" (" ++ toString code ++ ")") := by
  have described {status : LdapStatus} (has : status.code = some code) (before : String) :
      ∃ text, before ++ status.describe = text ++ (" (" ++ toString code ++ ")") :=
    ⟨before ++ status.text, by simp only [LdapStatus.describe, has, String.append_assoc]⟩
  cases error with
  | connect url status => exact described coded _
  | bind dn status => exact described coded _
  | search status => exact described coded _
  | unbind status => exact described coded _
  | notConnected => cases coded
  | encoding field => cases coded
  | resourceExhausted cause => cases coded

variable {σ κ : Type}

/-! ## What the directory logs -/

/-- What the directory logs in a step of the stage. -/
def Stage.told (directory : Directory σ) (lookups : Lookups) (state : σ) : Stage → List Event
  | .listSearch session => (directory.lookUp lookups.list session.sender state).1.events
  | .accountSearch session _ => (directory.lookUp lookups.account session.account state).1.events
  | _ => []

/-- A directory that logs no ERROR of its own. -/
def Directory.Quiet (directory : Directory σ) : Prop :=
  ∀ search state, errors (directory.search search state).1.events = []

theorem Directory.Quiet.lookUp {directory : Directory σ} (quiet : directory.Quiet) (query : Query)
    (address : Bytes) (state : σ) : errors (directory.lookUp query address state).1.events = [] := by
  unfold Directory.lookUp
  split
  · rfl
  · exact quiet _ state

theorem Directory.Quiet.told {directory : Directory σ} (quiet : directory.Quiet) (lookups : Lookups)
    (state : σ) (stage : Stage) : errors (stage.told directory lookups state) = [] := by
  cases stage with
  | listSearch session => exact quiet.lookUp lookups.list session.sender state
  | accountSearch session members => exact quiet.lookUp lookups.account session.account state
  | finish session members owned => rfl
  | settled resolution => rfl

/-- A directory of prepared answers logs no ERROR. -/
theorem quiet_prepared : PreparedDirectory.asDirectory.Quiet := by
  intro search state
  show errors (state.answerTo search).events = []
  unfold PreparedDirectory.answerTo
  split <;> rfl

theorem errors_found {entries : List Ldap.SortedEntry} {events : List Event}
    (told : events ⊆ Ldap.foundEvents entries) :
    errors (Ldap.matchedEvent entries :: events) = [] := by
  refine List.filter_eq_nil_iff.2 fun event member => ?_
  rcases List.mem_cons.1 member with rfl | member
  · simp [Event.isError, Ldap.matchedEvent, Event.own]
  · obtain ⟨entry, _, found⟩ := List.mem_flatMap.1 (told member)
    obtain ⟨value, _, rfl⟩ := List.mem_map.1 found
    simp [Event.isError, Ldap.foundEvent, Event.own]

theorem errors_searchReply (memory : Ldap.Memory)
    (answer : Except ClientFailure (List Ldap.SortedEntry)) :
    errors (Ldap.searchReply memory answer).events = [] := by
  have answered := Ldap.answered_searchReply memory answer
  generalize Ldap.searchReply memory answer = reply at answered ⊢
  cases answered with
  | failed failure => rfl
  | found enough values => exact errors_found (List.Subset.refl _)
  | short short told => exact errors_found told.subset

/-- Nor does one that asks a server, whatever that answers. -/
theorem quiet_ldap (client : Ldap.Client κ) : (Ldap.LdapDirectory.asDirectory client).Quiet := by
  rintro search ⟨handle, server⟩
  show errors (handle.search client search server).1.events = []
  unfold Ldap.LdapDirectory.search
  split
  · exact errors_searchReply _ (client.search search server).1
  · rfl

namespace Milter

/-! ## What goes wrong -/

inductive Trouble where
  | capture (id : TransactionId) (error : CaptureError)
  | resolution (id : TransactionId) (session : Session) (error : DirectoryError)
  | recipient (id : TransactionId) (error : RecipientError)

/-- The event that tells of it. -/
def Trouble.event : Trouble → Event
  | .capture id error => .ownFor .error id ("Unable to capture sender: " ++ error.message)
  | .resolution id session error =>
      .ownFor .error id
        (if error.isResourceExhaustion then error.message
        else s!"Not expanding {Utf8.lossy session.sender}: {error.message}")
  | .recipient id error => .ownFor .error id error.message

/-- What is told of a failed resolution ends with the text of its error. -/
theorem resolution_text (id : TransactionId) (session : Session) (error : DirectoryError) :
    ∃ before, (Trouble.resolution id session error).event.text = before ++ error.message := by
  cases wanting : error.isResourceExhaustion with
  | true => exact ⟨"", by simp [Trouble.event, Event.ownFor, wanting]⟩
  | false =>
      refine ⟨s!"Not expanding {Utf8.lossy session.sender}: ", ?_⟩
      simp only [Trouble.event, Event.ownFor, wanting, Bool.false_eq_true, if_false]
      rfl

/-- The lookup of a stage fails, when the directory is in `state`. -/
inductive LookupFails (directory : Directory σ) (lookups : Lookups) (state : σ) :
    Stage → Session → DirectoryError → Prop
  | list {session : Session} {error : DirectoryError}
      (failed : (directory.lookUp lookups.list session.sender state).1.outcome = .error error) :
      LookupFails directory lookups state (.listSearch session) session error
  | account {session : Session} {members : AddressSet} {error : DirectoryError}
      (failed : (directory.lookUp lookups.account session.account state).1.outcome =
        .error error) :
      LookupFails directory lookups state (.accountSearch session members) session error

theorem LookupFails.unique {directory : Directory σ} {lookups : Lookups} {state : σ} {stage : Stage}
    {one other : Session} {error failure : DirectoryError}
    (first : LookupFails directory lookups state stage one error)
    (second : LookupFails directory lookups state stage other failure) :
    one = other ∧ error = failure := by
  cases first with
  | list failed =>
      cases second with
      | list failedToo => exact ⟨rfl, Except.error.inj (failed.symm.trans failedToo)⟩
  | account failed =>
      cases second with
      | account failedToo => exact ⟨rfl, Except.error.inj (failed.symm.trans failedToo)⟩

/-- The mail server does not get `recipient`: it cannot travel, or is refused. -/
inductive NotAdded (sink : Sink κ) (server : κ) (recipient : Bytes) : RecipientError → Prop
  | containsNul (barred : 0 ∈ recipient) :
      NotAdded sink server recipient (.containsNul (Utf8.lossy recipient))
  | refused {reason : String} (travels : 0 ∉ recipient)
      (refusal : (sink.add recipient server).1 = .error reason) :
      NotAdded sink server recipient (.refused (Utf8.lossy recipient) reason)

theorem offer_eq_error (sink : Sink κ) (recipient : Bytes) (server : κ) (error : RecipientError) :
    (sink.offer recipient server).1 = .error error ↔ NotAdded sink server recipient error := by
  rcases sink.offer_cases recipient server with
    ⟨barred, -, offered⟩ | ⟨travels, -, ⟨accepted, offered⟩ | ⟨reason, refused, offered⟩⟩
  · rw [offered]
    constructor
    · rintro ⟨⟩
      exact .containsNul barred
    · rintro (_ | ⟨travels, _⟩)
      · rfl
      · exact absurd barred travels
  · rw [offered]
    constructor
    · rintro ⟨⟩
    · rintro (barred | ⟨_, refusal⟩)
      · exact absurd barred travels
      · cases accepted.symm.trans refusal
  · rw [offered]
    constructor
    · rintro ⟨⟩
      exact .refused travels refused
    · rintro (barred | ⟨_, refusal⟩)
      · exact absurd barred travels
      · cases refused.symm.trans refusal
        rfl

theorem NotAdded.unique {sink : Sink κ} {server : κ} {recipient : Bytes}
    {one other : RecipientError} (first : NotAdded sink server recipient one)
    (second : NotAdded sink server recipient other) : one = other := by
  rw [← offer_eq_error] at first second
  exact Except.error.inj (first.symm.trans second)

/-! ## What each part logs -/

/-- A capture that gets no memory is logged; all else that a MAIL can come to is not. -/
theorem onSender_errors (grants : CapturedPart → Bool) (resolver : Resolver) (id : TransactionId)
    (sender : Bytes) (account : Option Bytes) :
    (∃ given, account = some given ∧ given ≠ [] ∧ stripAngleBrackets sender ≠ [] ∧
      (grants .sender = false ∨ grants .account = false) ∧
      errors (resolver.onSender grants id sender account).2.2 =
        [(Trouble.capture id ⟨.allocatorRefused⟩).event]) ∨
    ((∀ given, account = some given → given ≠ [] → stripAngleBrackets sender ≠ [] →
        grants .sender = true ∧ grants .account = true) ∧
      errors (resolver.onSender grants id sender account).2.2 = []) := by
  cases account with
  | none => exact .inr ⟨fun _ given => (nomatch given), rfl⟩
  | some account =>
      by_cases given : account = []
      · subst given
        exact .inr ⟨fun _ same some_ => absurd (Option.some.inj same).symm some_, rfl⟩
      · have counted : Resolver.authenticated? (some account) = some account := by
          simp [Resolver.authenticated?, given]
        by_cases named : stripAngleBrackets sender = []
        · refine .inr ⟨fun _ _ _ some_ => absurd named some_, ?_⟩
          simp only [Resolver.onSender, counted, named, List.isEmpty_nil, if_true]
          rfl
        · have sends : (stripAngleBrackets sender).isEmpty = false := by simp [named]
          by_cases granted : grants .sender = true ∧ grants .account = true
          · refine .inr ⟨fun _ _ _ _ => granted, ?_⟩
            simp only [Resolver.onSender, counted, sends, Bool.false_eq_true, if_false,
              Session.capture?, granted.1, granted.2, Bool.and_self, if_true]
            rfl
          · have refused : (grants .sender && grants .account) = false := by simpa using granted
            refine .inl ⟨account, rfl, given, named, Bool.and_eq_false_iff.1 refused, ?_⟩
            simp only [Resolver.onSender, counted, sends, Bool.false_eq_true, if_false,
              Session.capture?, refused]
            rfl

theorem failed_event (id : TransactionId) (session : Session) (error : DirectoryError) :
    (Stage.failed id session error).2 = [(Trouble.resolution id session error).event] := by
  unfold Stage.failed
  split
  · next wanting => simp only [Trouble.event, wanting, if_true]
  · next other => simp only [Trouble.event, other, Bool.false_eq_true, if_false]

/-- A step logs a lookup that fails, and settles; otherwise it logs no ERROR. -/
theorem stage_errors (directory : Directory σ) (lookups : Lookups) (id : TransactionId) (state : σ)
    (stage : Stage) :
    (∃ session error, LookupFails directory lookups state stage session error ∧
      (stage.step directory lookups id state).1 = .settled ⟨error.verdict, AddressSet.empty⟩ ∧
      errors (stage.step directory lookups id state).2.2 =
        errors (stage.told directory lookups state) ++ [(Trouble.resolution id session error).event]) ∨
    ((∀ session error, ¬ LookupFails directory lookups state stage session error) ∧
      errors (stage.step directory lookups id state).2.2 =
        errors (stage.told directory lookups state)) := by
  cases stage with
  | listSearch session =>
      cases listed : (directory.lookUp lookups.list session.sender state).1.outcome with
      | error error =>
          refine .inl ⟨session, error, .list listed, ?_, ?_⟩
          · simp only [Stage.step, listed, Stage.failed_settled]
          · simp only [Stage.step, Stage.told, listed, failed_event, errors_append]
            rfl
      | ok members =>
          refine .inr ⟨?_, ?_⟩
          · rintro _ error (failed | _)
            cases listed.symm.trans failed
          · rw [Stage.step_listSearch_ok id listed]
            cases members.isEmpty with
            | true => simp [Stage.told, errors, Event.isError, Event.own]
            | false => rfl
  | accountSearch session members =>
      cases accounted : (directory.lookUp lookups.account session.account state).1.outcome with
      | error error =>
          refine .inl ⟨session, error, .account accounted, ?_, ?_⟩
          · simp only [Stage.step, accounted, Stage.failed_settled]
          · simp only [Stage.step, Stage.told, accounted, failed_event, errors_append]
            rfl
      | ok owned =>
          refine .inr ⟨?_, ?_⟩
          · rintro _ error (_ | failed)
            cases accounted.symm.trans failed
          · rw [Stage.step_accountSearch_ok id accounted]
            rfl
  | finish session members owned =>
      refine .inr ⟨?_, rfl⟩
      rintro _ _ ⟨⟩
  | settled resolution =>
      refine .inr ⟨?_, rfl⟩
      rintro _ _ ⟨⟩

/-- An offer that comes to nothing is logged, and one that is accepted is no ERROR. -/
theorem offer_errors (sink : Sink κ) (id : TransactionId) (recipient : Bytes) (server : κ) :
    (∃ error, NotAdded sink server recipient error ∧
      errors [offerEvent id recipient (sink.offer recipient server).1] =
        [(Trouble.recipient id error).event]) ∨
    ((∀ error, ¬ NotAdded sink server recipient error) ∧
      errors [offerEvent id recipient (sink.offer recipient server).1] = []) := by
  cases offered : (sink.offer recipient server).1 with
  | ok _ =>
      refine .inr ⟨fun error notAdded => ?_, rfl⟩
      exact nomatch offered.symm.trans ((offer_eq_error sink recipient server error).2 notAdded)
  | error error =>
      exact .inl ⟨error, (offer_eq_error sink recipient server error).1 offered, rfl⟩

end Milter

end ListExpansion
