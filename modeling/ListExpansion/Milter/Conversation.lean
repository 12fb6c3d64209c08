/-
# ListExpansion.Milter.Conversation -- connections and the commands on them

Connections have labels.  One is opened by the first command under its label and
again by the first one after it was closed.  A connection whose peer is gone takes
no recipient and is closed after the command.

At shutdown every connection that is still open is closed; one with a mail
transaction under way is told of its end first.
-/
import ListExpansion.Milter.Callbacks

namespace ListExpansion

set_option autoImplicit false

structure Connection where
  transaction : Option TransactionId
  /-- A sender was named and its message has not ended. -/
  underWay : Bool

def Connection.fresh : Connection := ⟨none, false⟩

inductive Command where
  | mail (arguments : List Bytes) (account : Option Bytes)
  | endOfMessage
  /-- The message ends, but nobody is there to take recipients. -/
  | endOfMessageUnheard
  | abort
  | close
  deriving DecidableEq, Repr

/-- What the peer of a connection saw of a command. -/
inductive Response where
  | status (verdict : Verdict)
  | recipients (added : List Bytes) (verdict : Verdict)
  | nothing
  deriving DecidableEq, Repr

/-- A mail server that takes recipients as long as it is there.  The empty
recipient is no valid one. -/
def peer (present : Bool) : Sink (List Bytes) where
  add recipient taken :=
    if recipient.isEmpty then (.error "invalid context action parameter", taken)
    else if present then (.ok (), taken ++ [recipient])
    else (.error "I/O error: broken pipe", taken)

structure Conversation (σ : Type) where
  filter : Filter σ
  connections : List (String × Connection)

namespace Conversation

variable {σ : Type}

def new (filter : Filter σ) : Conversation σ := ⟨filter, []⟩

/-- How many transactions have a captured sender. -/
def pending (conversation : Conversation σ) : Nat := conversation.filter.resolver.pending

def isOpen (conversation : Conversation σ) (label : String) : Bool :=
  (conversation.connections.lookup label).isSome

def closed (conversation : Conversation σ) (label : String) : List (String × Connection) :=
  conversation.connections.filter fun (other, _) => other ≠ label

/-- The connections with `connection` under `label`. -/
def updated (conversation : Conversation σ) (label : String) (connection : Connection) :
    List (String × Connection) :=
  conversation.closed label ++ [(label, connection)]

/-- Opens the connection if nothing is open under `label`. -/
def opened (conversation : Conversation σ) (label : String) : Conversation σ :=
  if conversation.isOpen label then conversation
  else { conversation with connections := conversation.updated label .fresh }

/-- One command on one connection. -/
def step (directory : Directory σ) (conversation : Conversation σ) (label : String) :
    Command → Response × Conversation σ × List Event
  | .mail arguments account =>
      let connection := (conversation.connections.lookup label).getD .fresh
      let (verdict, id, filter, events) :=
        conversation.filter.onMail (fun _ => true) connection.transaction arguments account
      (.status verdict, ⟨filter, conversation.updated label ⟨some id, true⟩⟩, events)
  | .endOfMessage =>
      let connection := (conversation.connections.lookup label).getD .fresh
      let (verdict, taken, filter, events) :=
        conversation.filter.onEndOfMessage directory (peer true) connection.transaction []
      (.recipients taken verdict,
        ⟨filter, conversation.updated label { connection with underWay := false }⟩, events)
  | .endOfMessageUnheard =>
      let connection := (conversation.connections.lookup label).getD .fresh
      let (_, _, filter, events) :=
        conversation.filter.onEndOfMessage directory (peer false) connection.transaction []
      let (_, filter, closing) := filter.onDiscard connection.transaction
      (.nothing, ⟨filter, conversation.closed label⟩, events ++ closing)
  | .abort =>
      let connection := (conversation.connections.lookup label).getD .fresh
      let (_, filter, events) := conversation.filter.onDiscard connection.transaction
      (.nothing, ⟨filter, conversation.updated label { connection with underWay := false }⟩, events)
  | .close =>
      let connection := (conversation.connections.lookup label).getD .fresh
      let (_, filter, events) := conversation.filter.onDiscard connection.transaction
      (.nothing, ⟨filter, conversation.closed label⟩, events)

/-- The end of one connection at shutdown. -/
def hangUp (filter : Filter σ) (connection : Connection) : Filter σ × List Event :=
  if connection.underWay then
    let (_, filter, aborting) := filter.onDiscard connection.transaction
    let (_, filter, closing) := filter.onDiscard connection.transaction
    (filter, aborting ++ closing)
  else
    let (_, filter, closing) := filter.onDiscard connection.transaction
    (filter, closing)

/-- Ends every connection that is still open. -/
def shutDown (conversation : Conversation σ) : Filter σ × List Event :=
  conversation.connections.foldl
    (fun (filter, events) (_, connection) =>
      let (filter, more) := hangUp filter connection
      (filter, events ++ more))
    (conversation.filter, [])

end Conversation

end ListExpansion
