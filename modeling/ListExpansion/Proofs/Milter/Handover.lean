/-
# ListExpansion.Proofs.Milter.Handover -- what comes of handing recipients over

The mail server may be anything: `Sink.answers` and `Sink.after` say what it answers to
requests made one after another and where they leave it.

Handing over a set makes just the requests of the recipients that can travel, counts the
answers that accept (`addAll_added`), and leaves one event for each recipient, about that
recipient and about what the server answered to it (`Told`, `addAll_told`).  Each of these
is a fact about one offer carried along the list; that no offer stops the next is what the
recursion of `Sink.addAll` says.
-/
import ListExpansion.Proofs.Milter.Trouble

namespace ListExpansion.Sink

open Milter

set_option autoImplicit false

variable {κ : Type}

section Server

variable (sink : Sink κ)

/-- The server after these requests. -/
def after (requests : List Bytes) (server : κ) : κ :=
  requests.foldl (fun server request => (sink.add request server).2) server

/-- What the server answers to these requests. -/
def answers : List Bytes → κ → List (Except String Unit)
  | [], _ => []
  | request :: rest, server =>
      (sink.add request server).1 :: answers rest (sink.add request server).2

theorem after_append (one other : List Bytes) (server : κ) :
    sink.after (one ++ other) server = sink.after other (sink.after one server) :=
  List.foldl_append

theorem answers_append (one other : List Bytes) (server : κ) :
    sink.answers (one ++ other) server =
      sink.answers one server ++ sink.answers other (sink.after one server) := by
  induction one generalizing server with
  | nil => rfl
  | cons request one ih => exact congrArg (_ :: ·) (ih _)

end Server

/-- The event tells of a recipient that came up when the server was in this state. -/
inductive Told (sink : Sink κ) (id : TransactionId) (server : κ) (recipient : Bytes) : Event → Prop
  | added (travels : 0 ∉ recipient) (accepted : (sink.add recipient server).1 = .ok ()) :
      Told sink id server recipient (.outgoing .info id ("Added recipient " ++ Utf8.lossy recipient))
  | notAdded {error : RecipientError} (failed : NotAdded sink server recipient error) :
      Told sink id server recipient (.ownFor .error id error.message)

/-! ## One offer -/

section Offer

variable (sink : Sink κ) (id : TransactionId) (recipient : Bytes) (server : κ)

theorem offer_told :
    sink.Told id server recipient (offerEvent id recipient (sink.offer recipient server).1) := by
  rcases sink.offer_cases recipient server with
    ⟨barred, -, offered⟩ | ⟨travels, -, ⟨accepted, offered⟩ | ⟨reason, refused, offered⟩⟩
  · rw [offered]
    exact .notAdded (.containsNul barred)
  · rw [offered]
    exact .added travels accepted
  · rw [offered]
    exact .notAdded (.refused travels refused)

theorem offer_server :
    (sink.offer recipient server).2 = sink.after (travelling [recipient]) server := by
  rcases sink.offer_cases recipient server with
    ⟨-, none_, offered⟩ | ⟨-, alone, ⟨_, offered⟩ | ⟨_, _, offered⟩⟩
  · rw [offered, none_]
    rfl
  · rw [offered, alone]
    rfl
  · rw [offered, alone]
    rfl

theorem offer_accepted :
    countAccepted (sink.offer recipient server).1 =
      (sink.answers (travelling [recipient]) server).countP Except.isOk := by
  rcases sink.offer_cases recipient server with
    ⟨-, none_, offered⟩ | ⟨-, alone, ⟨accepted, offered⟩ | ⟨reason, refused, offered⟩⟩
  · rw [offered, none_]
    rfl
  · rw [offered, alone, answers, accepted]
    rfl
  · rw [offered, alone, answers, refused]
    rfl

end Offer

/-! ## All of them -/

section All

variable (sink : Sink κ) (id : TransactionId) (recipients : List Bytes) (server : κ)

theorem addAll_server :
    (sink.addAll id recipients server).sink = sink.after (travelling recipients) server := by
  induction recipients generalizing server with
  | nil => rfl
  | cons recipient rest ih =>
      rw [travelling_cons, after_append, ← offer_server]
      exact ih _

theorem addAll_added :
    (sink.addAll id recipients server).added =
      (sink.answers (travelling recipients) server).countP Except.isOk := by
  induction recipients generalizing server with
  | nil => rfl
  | cons recipient rest ih =>
      rw [travelling_cons, answers_append, List.countP_append, ← offer_accepted, ← offer_server,
        ← ih]
      rfl

theorem length_events :
    (sink.addAll id recipients server).events.length = recipients.length := by
  induction recipients generalizing server with
  | nil => rfl
  | cons recipient rest ih => exact congrArg (· + 1) (ih _)

theorem addAll_told (place : Nat) {recipient : Bytes} (there : recipients[place]? = some recipient) :
    ∃ event, (sink.addAll id recipients server).events[place]? = some event ∧
      sink.Told id (sink.after (travelling (recipients.take place)) server) recipient event := by
  induction recipients generalizing server place with
  | nil => simp at there
  | cons first rest ih =>
      cases place with
      | zero =>
          obtain rfl : first = recipient := by simpa using there
          exact ⟨_, rfl, sink.offer_told id first server⟩
      | succ place =>
          rw [List.take_succ_cons, travelling_cons, after_append, ← offer_server]
          exact ih _ place (by simpa using there)

end All

/-- **Every recipient that can travel is asked for once, in order, whatever the server answered
before.**  What is returned is the number of requests that it accepted, and each recipient
leaves one event: whether it was added, and if not why. -/
theorem handover_exact (sink : Sink κ) (id : TransactionId) (recipients : AddressSet)
    (server : κ) :
    let requests := travelling recipients.toList
    let handover := sink.recording.addAll id recipients.toList (server, [])
    handover.sink = (sink.after requests server, requests) ∧
    handover.added = (sink.answers requests server).countP Except.isOk ∧
    handover.events.length = recipients.size ∧
    ∀ place recipient, recipients.get? place = some recipient →
      ∃ event, handover.events[place]? = some event ∧
        sink.Told id (sink.after (travelling (recipients.toList.take place)) server) recipient
          event := by
  intro requests handover
  have recorded : handover = _ := sink.addAll_recording id recipients.toList server []
  rw [recorded]
  refine ⟨?_, sink.addAll_added id _ server, sink.length_events id _ server, ?_⟩
  · exact Prod.ext (sink.addAll_server id _ server) rfl
  · intro place recipient there
    exact sink.addAll_told id _ server place (by simpa [AddressSet.get?, AddressSet.toList] using there)

end ListExpansion.Sink
