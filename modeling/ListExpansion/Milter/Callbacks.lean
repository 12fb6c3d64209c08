/-
# ListExpansion.Milter.Callbacks -- what the mail server tells the filter

Four things are listened to: a sender is named, a message ends, a transaction is
given up, a connection closes.  The state of a connection is the name of its
transaction; it gets one with its first sender and keeps it for good.

`Filter` is what all connections share.  Names are handed out in turn, so no two
connections have the same.
-/
import ListExpansion.Milter.Recipients
import ListExpansion.Resolver

namespace ListExpansion

set_option autoImplicit false

/-- The protocol's bit for adding recipients: the only action asked for. -/
def requestedActions : Nat := 4

/-- The macro that carries the authenticated account. -/
def accountMacro : String := "\x7bauth_authen\x7d"

/-- A resolver at work: its directory's state and how many names are given out. -/
structure Filter (σ : Type) where
  resolver : Resolver
  directory : σ
  issued : Nat

namespace Filter

variable {σ κ : Type}

def new (lookups : Lookups) (directory : σ) : Filter σ := ⟨.new lookups, directory, 0⟩

/-- The transaction of a connection, named now if it has no name yet. -/
def identify (filter : Filter σ) : Option TransactionId → TransactionId × Filter σ
  | some id => (id, filter)
  | none => (⟨filter.issued⟩, { filter with issued := filter.issued + 1 })

/-- A sender was named: the first argument, or nothing at all. -/
def onMail (grants : CapturedPart → Bool) (filter : Filter σ) (transaction : Option TransactionId)
    (arguments : List Bytes) (account : Option Bytes) :
    Verdict × TransactionId × Filter σ × List Event :=
  let (id, filter) := filter.identify transaction
  let sender := arguments.headD []
  let accountText := (account.map Utf8.lossy).getD "<none>"
  let told := Event.incoming .trace id
    s!"MAIL FROM:{Utf8.lossy sender} {accountMacro}={accountText}"
  let (verdict, resolver, events) := filter.resolver.onSender grants id sender account
  (verdict, id, { filter with resolver }, told :: events)

/-- A message ended: the recipients go to `sink` before the verdict. -/
def onEndOfMessage (directory : Directory σ) (sink : Sink κ) (filter : Filter σ)
    (transaction : Option TransactionId) (server : κ) : Verdict × κ × Filter σ × List Event :=
  match transaction with
  | none => (.proceed, server, filter, [])
  | some id =>
      let (resolution, resolver, state, events) :=
        filter.resolver.onEndOfTransaction directory id filter.directory
      let handover := sink.addAll id resolution.recipients.toList server
      (resolution.verdict, handover.sink, { filter with resolver, directory := state },
        events ++ handover.events)

/-- The transaction was given up, or its connection closed. -/
def onDiscard (filter : Filter σ) : Option TransactionId → Verdict × Filter σ × List Event
  | none => (.proceed, filter, [])
  | some id =>
      let (resolver, events) := filter.resolver.onAbort id
      (.proceed, { filter with resolver }, events)

end Filter

end ListExpansion
