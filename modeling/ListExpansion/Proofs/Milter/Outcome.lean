/-
# ListExpansion.Proofs.Milter.Outcome -- what an end of message comes to

`Expanded` is the specification of one end of message: the session that is due, the
lookups made for it, the recipients asked for and the verdict.  A session is due when the
callback before was a MAIL that captured it (`due`, `Captured`).

`Underway` says the same of an end of message on its way there: whatever the directory
answers next (`Underway.step`) and whatever the mail server says to a recipient
(`Underway.offer`), the result will be as specified.
-/
import ListExpansion.Proofs.Milter.Traffic
import ListExpansion.Proofs.Resolver.Expansion

namespace ListExpansion

set_option autoImplicit false

namespace Milter

/-- The session that an end of message after these callbacks is to resolve: what the last
of them captured. -/
def due (served : List Served) : Option Session :=
  served.getLast?.bind fun last => last.callback.meaning.captured?

/-- The last callback is a MAIL, authenticated by an account and with a sender that is not
null, and both copies of its capture got their memory. -/
def Captured (served : List Served) (session : Session) : Prop :=
  ∃ earlier last grants arguments account,
    served = earlier ++ [last] ∧ last.callback = .mail grants arguments (some account) ∧
      account ≠ [] ∧ stripAngleBrackets (arguments.headD []) ≠ [] ∧
      grants .sender = true ∧ grants .account = true ∧
      session = ⟨stripAngleBrackets (arguments.headD []), account⟩

/-- What an end of message comes to: the session due, the lookups made for it, the
recipients asked for in this order, and the verdict. -/
inductive Expanded (lookups : Lookups) :
    Option Session → List Lookup → List Bytes → Verdict → Prop
  | nothingDue : Expanded lookups none [] [] .proceed
  | listFailed (session : Session) (error : DirectoryError) :
      Expanded lookups (some session) [⟨lookups.list, session.sender, .error error⟩] []
        error.verdict
  | notAList (session : Session) (members : AddressSet) (none_ : members.toList = []) :
      Expanded lookups (some session) [⟨lookups.list, session.sender, .ok members⟩] [] .proceed
  | accountFailed (session : Session) (members : AddressSet) (error : DirectoryError)
      (some_ : members.toList ≠ []) :
      Expanded lookups (some session)
        [⟨lookups.list, session.sender, .ok members⟩,
          ⟨lookups.account, session.account, .error error⟩] [] error.verdict
  | expanded (session : Session) (members owned : AddressSet) (asked : List Bytes)
      (some_ : members.toList ≠ []) (strict : asked.Pairwise (· < ·))
      (mem_iff : ∀ address, address ∈ asked ↔
        address ∈ members.toList ∧ address ∉ owned.toList ∧ 0 ∉ address) :
      Expanded lookups (some session)
        [⟨lookups.list, session.sender, .ok members⟩,
          ⟨lookups.account, session.account, .ok owned⟩] asked .proceed

section Due

variable {served : List Served} {last : Served}

@[simp] theorem due_concat : due (served ++ [last]) = last.callback.meaning.captured? := by
  simp [due]

theorem captured?_of_not_mail {callback : Callback} (other : callback.isMail = false) :
    callback.meaning.captured? = none := by
  cases callback with
  | mail grants arguments account => cases other
  | endOfMessage => rfl
  | abort => rfl
  | close => rfl

theorem due_of_no_mail (none_ : (served.any fun one => one.callback.isMail) = false) :
    due served = none := by
  rcases List.eq_nil_or_concat served with rfl | ⟨earlier, last, rfl⟩
  · rfl
  · rw [List.concat_eq_append, List.any_append, Bool.or_eq_false_iff] at none_
    rw [List.concat_eq_append, due_concat]
    exact captured?_of_not_mail (by simpa using none_.2)

theorem due_eq_some (served : List Served) (session : Session) :
    due served = some session ↔ Captured served session := by
  constructor
  · intro found
    rcases List.eq_nil_or_concat served with rfl | ⟨earlier, last, rfl⟩
    · cases found
    · rw [List.concat_eq_append] at found ⊢
      rw [due_concat, Resolver.Call.captured?_eq_some] at found
      obtain ⟨grants, address, account, meaning, rest⟩ := found
      obtain ⟨callback, found, asked, verdict⟩ := last
      cases callback with
      | mail given arguments user =>
          obtain ⟨rfl, rfl, rfl⟩ := Resolver.Call.sender.inj meaning
          exact ⟨earlier, _, given, arguments, account, rfl, rfl, rest⟩
      | endOfMessage => cases meaning
      | abort => cases meaning
      | close => cases meaning
  · rintro ⟨earlier, last, grants, arguments, account, rfl, mail, rest⟩
    rw [due_concat, Resolver.Call.captured?_eq_some, mail]
    exact ⟨grants, _, account, rfl, rest⟩

end Due

namespace Expanded

variable {lookups : Lookups} {session? : Option Session} {found : List Lookup}
  {asked : List Bytes} {verdict : Verdict}

theorem strict (comes : Expanded lookups session? found asked verdict) :
    asked.Pairwise (· < ·) := by
  cases comes with
  | expanded session members owned asked some_ strict mem_iff => exact strict
  | nothingDue => exact .nil
  | listFailed session error => exact .nil
  | notAList session members none_ => exact .nil
  | accountFailed session members error some_ => exact .nil

/-- Nobody is asked for unless both lookups went well. -/
theorem mem_asked (comes : Expanded lookups session? found asked verdict) (address : Bytes) :
    address ∈ asked ↔ ∃ session members owned, session? = some session ∧
      found = [⟨lookups.list, session.sender, .ok members⟩,
        ⟨lookups.account, session.account, .ok owned⟩] ∧
      address ∈ members.toList ∧ address ∉ owned.toList ∧ 0 ∉ address := by
  cases comes with
  | expanded session members owned asked some_ strict mem_iff =>
      rw [mem_iff]
      constructor
      · exact fun travels => ⟨session, members, owned, rfl, rfl, travels⟩
      · rintro ⟨_, _, _, ⟨⟩, ⟨⟩, travels⟩
        exact travels
  | nothingDue => simp
  | listFailed session error => simp
  | notAList session members none_ => simp
  | accountFailed session members error some_ => simp

end Expanded

/-! ## An end of message on its way -/

/-- How far an end of message came that is due to resolve a session: what it found and asked
for so far, and what it is at. -/
inductive Underway (lookups : Lookups) :
    Option Session → Phase → List Lookup → List Bytes → Prop
  | listSearch (session : Session) :
      Underway lookups (some session) (.resolving (.listSearch session)) [] []
  | accountSearch (session : Session) (members : AddressSet) (some_ : members.toList ≠ []) :
      Underway lookups (some session) (.resolving (.accountSearch session members.sort))
        [⟨lookups.list, session.sender, .ok members⟩] []
  | finish (session : Session) (members owned : AddressSet) (some_ : members.toList ≠ []) :
      Underway lookups (some session) (.resolving (.finish session members.sort owned.sort))
        [⟨lookups.list, session.sender, .ok members⟩,
          ⟨lookups.account, session.account, .ok owned⟩] []
  | offering (session? : Option Session) (verdict : Verdict) (left : List Bytes)
      (found : List Lookup) (asked : List Bytes)
      (comes : Expanded lookups session? found (asked ++ travelling left) verdict) :
      Underway lookups session? (.offering verdict left) found asked

namespace Underway

variable {lookups : Lookups} {session? : Option Session} {found : List Lookup}
  {asked : List Bytes}

theorem first (lookups : Lookups) (session? : Option Session) :
    Underway lookups session? (.of (.first session?)) [] [] := by
  cases session? with
  | none => exact .offering _ _ _ _ _ .nothingDue
  | some session => exact .listSearch session

/-- Each stage comes to the next one, or to what the specification says. -/
theorem step {σ : Type} {stage : Stage}
    (there : Underway lookups session? (.resolving stage) found asked) (directory : Directory σ)
    (id : TransactionId) (state : σ) :
    Underway lookups session? (.of (stage.step directory lookups id state).1)
      (found ++ stage.made directory lookups state) asked := by
  cases there with
  | listSearch session =>
      cases listed : (directory.lookUp lookups.list session.sender state).1.outcome with
      | error error =>
          simp only [Stage.step, Stage.made, listed, Stage.failed_settled]
          exact .offering _ _ _ _ _ (.listFailed session error)
      | ok members =>
          rw [Stage.step_listSearch_ok id listed]
          simp only [Stage.made, listed]
          cases none_ : members.isEmpty with
          | true =>
              have empty : members.toList = [] := members.isEmpty_iff.1 none_
              refine .offering _ _ _ _ _ ?_
              simp only [Resolution.adding, empty]
              exact .notAList session members empty
          | false =>
              refine .accountSearch session members fun empty => ?_
              exact Bool.false_ne_true (none_.symm.trans (members.isEmpty_iff.2 empty))
  | accountSearch session members some_ =>
      cases accounted : (directory.lookUp lookups.account session.account state).1.outcome with
      | error error =>
          simp only [Stage.step, Stage.made, accounted, Stage.failed_settled]
          exact .offering _ _ _ _ _ (.accountFailed session members error some_)
      | ok owned =>
          rw [Stage.step_accountSearch_ok id accounted]
          simp only [Stage.made, accounted]
          exact .finish session members owned some_
  | finish session members owned some_ =>
      have expansion := expansion_sweep members owned
      refine .offering _ _ _ _ _ (.expanded session members owned _ some_ ?_ fun address => ?_)
      · exact expansion.strict.filter _
      · rw [List.nil_append, mem_travelling]
        exact Iff.trans (and_congr_left' (expansion.mem_iff address)) and_assoc

theorem offer {verdict : Verdict} {recipient : Bytes} {left : List Bytes}
    (there : Underway lookups session? (.offering verdict (recipient :: left)) found asked) :
    Underway lookups session? (.offering verdict left) found
      (asked ++ travelling [recipient]) := by
  cases there with
  | offering _ _ _ _ _ comes =>
      refine .offering _ _ _ _ _ ?_
      rwa [List.append_assoc, ← travelling_cons]

theorem answer {verdict : Verdict}
    (there : Underway lookups session? (.offering verdict []) found asked) :
    Expanded lookups session? found asked verdict := by
  cases there with
  | offering _ _ _ _ _ comes => simpa [travelling] using comes

end Underway

end Milter

end ListExpansion
