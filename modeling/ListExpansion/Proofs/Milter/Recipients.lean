/-
# ListExpansion.Proofs.Milter.Recipients -- what the mail server is asked for

An offer comes to one of three things (`offer_cases`).  `Sink.recording` writes down each
request for a recipient, whatever the answer to it.  The requests that `Sink.addAll` makes
are the recipients without a NUL, in order (`addAll_recording`); no refusal keeps a later
one back.
-/
import ListExpansion.Milter.Recipients

namespace ListExpansion

set_option autoImplicit false

/-- The recipients that can travel: those without a NUL. -/
def travelling (recipients : List Bytes) : List Bytes :=
  recipients.filter fun recipient => !recipient.contains 0

theorem travelling_cons (recipient : Bytes) (rest : List Bytes) :
    travelling (recipient :: rest) = travelling [recipient] ++ travelling rest :=
  List.filter_append [recipient] rest

theorem mem_travelling {recipient : Bytes} {recipients : List Bytes} :
    recipient ∈ travelling recipients ↔ recipient ∈ recipients ∧ 0 ∉ recipient := by
  simp [travelling, List.mem_filter]

namespace Sink

variable {κ : Type} (sink : Sink κ)

/-- Everything an offer can come to. -/
theorem offer_cases (recipient : Bytes) (server : κ) :
    (0 ∈ recipient ∧ travelling [recipient] = [] ∧
      sink.offer recipient server = (.error (.containsNul (Utf8.lossy recipient)), server)) ∨
    (0 ∉ recipient ∧ travelling [recipient] = [recipient] ∧
      ((sink.add recipient server).1 = .ok () ∧
          sink.offer recipient server = (.ok (), (sink.add recipient server).2) ∨
        ∃ reason, (sink.add recipient server).1 = .error reason ∧
          sink.offer recipient server =
            (.error (.refused (Utf8.lossy recipient) reason), (sink.add recipient server).2))) := by
  by_cases barred : 0 ∈ recipient
  · exact .inl ⟨barred, by simp [travelling, barred], by simp [offer, barred]⟩
  · refine .inr ⟨barred, by simp [travelling, barred], ?_⟩
    rcases answer : sink.add recipient server with ⟨outcome, next⟩
    cases outcome with
    | ok _ => exact .inl ⟨rfl, by simp [offer, barred, answer]⟩
    | error reason => exact .inr ⟨reason, rfl, by simp [offer, barred, answer]⟩

/-- The same sink, with a record of the requests that reach it, oldest first. -/
def recording : Sink (κ × List Bytes) where
  add recipient state :=
    let (outcome, server) := sink.add recipient state.1
    (outcome, server, state.2 ++ [recipient])

theorem offer_recording (recipient : Bytes) (server : κ) (asked : List Bytes) :
    sink.recording.offer recipient (server, asked) =
      ((sink.offer recipient server).1, (sink.offer recipient server).2,
        asked ++ travelling [recipient]) := by
  by_cases barred : 0 ∈ recipient
  · simp [offer, travelling, barred]
  · rcases answer : sink.add recipient server with ⟨outcome, next⟩
    cases outcome with
    | ok _ => simp [offer, recording, travelling, barred, answer]
    | error reason => simp [offer, recording, travelling, barred, answer]

/-- Whatever it answers, the mail server is asked for just those that can travel. -/
theorem addAll_recording (id : TransactionId) (recipients : List Bytes) (server : κ)
    (asked : List Bytes) :
    sink.recording.addAll id recipients (server, asked) =
      let handover := sink.addAll id recipients server
      ⟨handover.added, (handover.sink, asked ++ travelling recipients), handover.events⟩ := by
  induction recipients generalizing server asked with
  | nil => simp [addAll, travelling]
  | cons recipient rest ih =>
      simp only [addAll, offer_recording, ih, travelling_cons recipient rest, List.append_assoc]

end Sink

end ListExpansion
