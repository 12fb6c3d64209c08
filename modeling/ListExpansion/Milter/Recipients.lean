/-
# ListExpansion.Milter.Recipients -- handing recipients to the mail server

Recipients travel to the mail server as octets closed by a NUL, so one with a NUL
inside is never offered.  The server may refuse any other.  Neither stops those
that follow, and each recipient leaves exactly one event.

The server is a `Sink`: any state, any pattern of answers.
-/
import ListExpansion.Address.Set
import ListExpansion.Log

namespace ListExpansion

set_option autoImplicit false

/-- Where recipients go.  A refusal comes with its reason. -/
structure Sink (κ : Type) where
  add : Bytes → κ → Except String Unit × κ

/-- Why a recipient was not added. -/
inductive RecipientError where
  | containsNul (recipient : String)
  | refused (recipient reason : String)
  deriving DecidableEq, Repr

def RecipientError.message : RecipientError → String
  | .containsNul recipient =>
      "Recipient " ++ Text.quote recipient ++ " contains a NUL byte and cannot be handed to the MTA"
  | .refused recipient reason => s!"Failed to add recipient {recipient}: {reason}"

/-- What handing over recipients came to. -/
structure Handover (κ : Type) where
  added : Nat
  sink : κ
  events : List Event

variable {κ : Type}

/-- Offers one recipient, unless it cannot travel. -/
def Sink.offer (sink : Sink κ) (recipient : Bytes) (state : κ) : Except RecipientError Unit × κ :=
  if recipient.contains 0 then (.error (.containsNul (Utf8.lossy recipient)), state)
  else
    match sink.add recipient state with
    | (.ok (), state) => (.ok (), state)
    | (.error reason, state) => (.error (.refused (Utf8.lossy recipient) reason), state)

/-- The event that an offer leaves. -/
def offerEvent (id : TransactionId) (recipient : Bytes) : Except RecipientError Unit → Event
  | .ok () => .outgoing .info id ("Added recipient " ++ Utf8.lossy recipient)
  | .error error => .ownFor .error id error.message

/-- One more for an offer that was accepted. -/
def countAccepted : Except RecipientError Unit → Nat
  | .ok () => 1
  | .error _ => 0

/-- Offers every recipient in order, whatever became of those before. -/
def Sink.addAll (sink : Sink κ) (id : TransactionId) : List Bytes → κ → Handover κ
  | [], state => ⟨0, state, []⟩
  | recipient :: rest, state =>
      let (outcome, state) := sink.offer recipient state
      let others := sink.addAll id rest state
      ⟨countAccepted outcome + others.added, others.sink,
        offerEvent id recipient outcome :: others.events⟩

end ListExpansion
