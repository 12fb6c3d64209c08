/-
# ListExpansion.Proofs.Ldap.Presentation -- how a server puts its answer

Nothing is to be read from the order in which values come: the same values may stand in other
entries and attributes, or more often, or as text.  Two answers that carry the same values
(`CarryAlike`), and for which there is the memory, come to replies in which the same was found,
and so to the same resolution (`presentation_immaterial`).
-/
import ListExpansion.Proofs.Ldap.Gathering
import ListExpansion.Proofs.Resolver.Agreement

namespace ListExpansion.Ldap

set_option autoImplicit false

/-! ## Which values there are -/

/-- `value` is in one of the entries, as a text or as it is. -/
def Carries (entries : List SortedEntry) (value : Bytes) : Prop :=
  ∃ entry ∈ entries,
    (∃ named ∈ entry.textual, ∃ text ∈ named.2, Bytes.ofText text = value) ∨
      ∃ named ∈ entry.binary, value ∈ named.2

theorem mem_values {entries : List SortedEntry} {value : Bytes} :
    value ∈ entries.flatMap SortedEntry.values ↔ Carries entries value := by
  simp only [SortedEntry.values, Carries, List.mem_flatMap, List.mem_append, List.mem_map]

/-! ## Two clients -/

/-- The two answers carry the same values, for all of which there is the memory, or they are the
same failure. -/
inductive CarryAlike (memory memoryToo : Memory) : Except ClientFailure (List SortedEntry) →
    Except ClientFailure (List SortedEntry) → Prop
  | failed (failure : ClientFailure) :
      CarryAlike memory memoryToo (.error failure) (.error failure)
  | found {one other : List SortedEntry} (enough : Enough memory one)
      (enoughToo : Enough memoryToo other)
      (same : ∀ value, Carries one value ↔ Carries other value) :
      CarryAlike memory memoryToo (.ok one) (.ok other)

theorem CarryAlike.sameFound {memory memoryToo : Memory}
    {one other : Except ClientFailure (List SortedEntry)}
    (alike : CarryAlike memory memoryToo one other) :
    SameFound (searchReply memory one).outcome (searchReply memoryToo other).outcome := by
  cases alike with
  | failed failure => exact .failed _
  | found enough enoughToo same =>
      obtain ⟨addresses, collected, values⟩ := collect_enough enough
      obtain ⟨addressesToo, collectedToo, valuesToo⟩ := collect_enough enoughToo
      rw [searchReply, searchReply, collected, collectedToo]
      refine .found fun address => ?_
      rw [values, valuesToo, mem_values, mem_values, same]

section Clients

variable {κ κ' : Type}

/-- Asked the same, the two clients answer with the same values. -/
def SearchAlike (left : Client κ) (right : Client κ') (search : Search) (s : κ) (t : κ') : Prop :=
  CarryAlike (left.memory (left.search search s).2) (right.memory (right.search search t).2)
    (left.search search s).1 (right.search search t).1

/-- Asked for the list of `session`, and then for its account if there is a list, the two
clients answer with the same values. -/
structure AnswerAlike (left : Client κ) (right : Client κ') (lookups : Lookups) (session : Session)
    (s : κ) (t : κ') : Prop where
  list : ∀ listing, lookups.list.Fills session.sender listing → SearchAlike left right listing s t
  account : ∀ listing account entries value, lookups.list.Fills session.sender listing →
    lookups.account.Fills session.account account →
    (left.search listing s).1 = .ok entries → Carries entries value →
    SearchAlike left right account (left.search listing s).2 (right.search listing t).2

/-- Behind the same handle the directories find the same. -/
theorem AnswerAlike.findAlike {left : Client κ} {right : Client κ'} {lookups : Lookups}
    {session : Session} {s : κ} {t : κ'} (alike : AnswerAlike left right lookups session s t)
    (handle : LdapDirectory) :
    FindAlike (LdapDirectory.asDirectory left) (LdapDirectory.asDirectory right) lookups session
      (handle, s) (handle, t) := by
  cases connected : handle.connected with
  | true =>
      constructor <;>
        simp only [LdapDirectory.asDirectory, LdapDirectory.search, connected, if_true]
      · exact fun listing fills => (alike.list listing fills).sameFound
      · intro listing account members fills fillsToo listed some_
        -- The account is asked for only if the list has a value to show.
        obtain ⟨entries, answered, values⟩ := answered_of_ok listed
        obtain ⟨value, shown⟩ := List.exists_mem_of_ne_nil _ some_
        rw [values] at shown
        exact (alike.account listing account entries value fills fillsToo answered
          (mem_values.1 shown)).sameFound
  | false =>
      constructor <;>
        simp only [LdapDirectory.asDirectory, LdapDirectory.search, connected, Bool.false_eq_true,
          if_false]
      · exact fun _ _ => .failed .notConnected
      · exact fun _ _ _ _ _ _ _ => .failed .notConnected

/-- **Every value is collected, and nothing but the values decides who is added.**  If there is
the memory for it, what a server found is gathered entry by entry, the texts of an entry before
the rest of it, as often as it is there; else the search fails and nothing is kept.  Memory that
never runs out is enough for all that can be counted in it.  Where a value stood, how often, and
whether it came as a text does not show in what the mail server is told. -/
theorem presentation_immaterial (left : Client κ) (right : Client κ') :
    (∀ memory entries, Enough memory entries → ∃ addresses : AddressSet,
      (collect memory entries).1 = .ok addresses ∧
      (addresses.toList = entries.flatMap fun entry =>
        (entry.textual.flatMap fun (_, texts) => texts.map Bytes.ofText) ++
          entry.binary.flatMap fun (_, values) => values) ∧
      ∀ value, addresses.toList.count value = (entries.map (SortedEntry.count value)).sum) ∧
    (∀ memory entries, ¬ Enough memory entries →
      ∃ cause, (collect memory entries).1 = .error cause ∧
        (searchReply memory (.ok entries)).outcome = .error (.resourceExhausted cause)) ∧
    (∀ entries, 2 * (entries.flatMap SortedEntry.values).length ≤ AddressSet.maximalCapacity →
      Enough .ample entries) ∧
    ∀ (resolver : Resolver) (id : TransactionId) (handle : LdapDirectory) (s : κ) (t : κ'),
      (∀ session, resolver.transactions.state id = .captured session →
        AnswerAlike left right resolver.lookups session s t) →
      let one := (resolver.onEndOfTransaction (LdapDirectory.asDirectory left) id (handle, s)).1
      let other := (resolver.onEndOfTransaction (LdapDirectory.asDirectory right) id (handle, t)).1
      one.verdict = other.verdict ∧ one.recipients.toList = other.recipients.toList := by
  refine ⟨fun memory entries enough => ?_, fun memory entries short => ?_,
    fun entries => enough_ample, fun resolver id handle s t alike => ?_⟩
  · obtain ⟨addresses, collected, values⟩ := collect_enough enough
    refine ⟨addresses, congrArg Prod.fst collected, values, fun value => ?_⟩
    rw [values, count_values]
  · obtain ⟨cause, events, collected, -⟩ := collect_short short
    exact ⟨cause, congrArg Prod.fst collected, by rw [searchReply, collected]; rfl⟩
  · have agrees := Resolver.resolution_agrees fun session captured =>
      (alike session captured).findAlike handle
    exact ⟨agrees.verdict, agrees.recipients⟩

end Clients

/-! ## A list as texts, and as octets with a repetition -/

namespace Example

/-- Answers every search, by the attribute it asks for. -/
def answering (members owned : List SortedEntry) : Client Unit where
  bind _ _ server := (.ok (), server)
  search search server :=
    (.ok (if search.resultAttribute = "member" then members else owned), server)
  unbind server := (.ok (), server)
  memory _ := .ample

def plain : Client Unit :=
  answering [⟨"cn=t", [("member", ["b", "a"])], []⟩] [⟨"uid=al", [("mail", ["a"])], []⟩]

def scattered : Client Unit :=
  answering
    [⟨"cn=s", [], [("member", [[0x61]])]⟩, ⟨"cn=t", [("Member", ["b"])], [("member", [[0x62]])]⟩]
    [⟨"uid=al", [("mail", ["a", "a"])], [("MAIL", [[0x61]])]⟩]

theorem searchAlike_team (search : Search) : SearchAlike plain scattered search () () := by
  have ofA : Bytes.ofText "a" = [0x61] := by decide
  have ofB : Bytes.ofText "b" = [0x62] := by decide
  refine .found (enough_ample ?_) (enough_ample ?_) fun value => ?_
  · split <;> decide
  · split <;> decide
  by_cases members : search.resultAttribute = "member"
  · simp [Carries, members, ofA, ofB, or_comm, eq_comm]
  · simp [Carries, members, ofA, eq_comm]

theorem presentation_immaterial_team :
    let resolver := Resolver.Example.resolver
    let handle : LdapDirectory := ⟨"localhost", true⟩
    (∀ session, resolver.transactions.state ⟨0⟩ = .captured session →
      AnswerAlike plain scattered resolver.lookups session () ()) ∧
      (resolver.onEndOfTransaction (LdapDirectory.asDirectory plain) ⟨0⟩
        (handle, ())).1.recipients.toList =
        (resolver.onEndOfTransaction (LdapDirectory.asDirectory scattered) ⟨0⟩
          (handle, ())).1.recipients.toList := by
  intro resolver handle
  have alike (session : Session) (_ : resolver.transactions.state ⟨0⟩ = .captured session) :
      AnswerAlike plain scattered resolver.lookups session () () :=
    ⟨fun listing _ => searchAlike_team listing,
      fun _ account _ _ _ _ _ _ => searchAlike_team account⟩
  obtain ⟨-, -, -, same⟩ := presentation_immaterial plain scattered
  exact ⟨alike, (same resolver ⟨0⟩ handle () () alike).2⟩

end Example

end ListExpansion.Ldap
