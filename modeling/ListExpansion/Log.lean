/-
# ListExpansion.Log -- events and which of them are written

An event has a severity, the direction it concerns, the transaction it belongs to
(if any) and a text.  Components return the events they cause, oldest first; what
is written, and from which severity on, is decided at the end.

Some of the work is an activity (`Activity`), whose begin, end and failure are events
too.  It names what it works on at the end of each of its lines.

A line is all that a reader of the log is sure to get of an event: what follows a
line break in it stands in the output like anything else (`Event.overflow`).
-/

namespace ListExpansion

set_option autoImplicit false

/-- Names one connection of the mail server, and so the transaction on it. -/
structure TransactionId where
  serial : Nat
  deriving DecidableEq, Repr

/-- Gravest first. -/
inductive Severity where
  | error
  | warn
  | info
  | debug
  | trace
  deriving DecidableEq, Repr

/-- Gravity as a number: the smaller, the graver. -/
def Severity.rank : Severity → Nat
  | .error => 1
  | .warn => 2
  | .info => 3
  | .debug => 4
  | .trace => 5

def Severity.label : Severity → String
  | .error => "ERROR"
  | .warn => "WARN"
  | .info => "INFO"
  | .debug => "DEBUG"
  | .trace => "TRACE"

/-- What an event is about: something the mail server told us, something we asked
of it, our own doings, or how an activity went. -/
inductive Direction where
  | incoming
  | outgoing
  | own
  | activity
  deriving DecidableEq, Repr

def Direction.label : Direction → String
  | .incoming => "incoming"
  | .outgoing => "outgoing"
  | .own => "internal"
  | .activity => "activity"

/-- A piece of work, by what it works on: the subject's name and its value.  They are
named in a log that is written from the activity's own severity on. -/
structure Activity where
  severity : Severity
  subject : String
  value : String
  deriving DecidableEq, Repr

structure Event where
  severity : Severity
  direction : Direction
  transaction : Option TransactionId
  text : String
  activity : Option Activity
  deriving DecidableEq, Repr

namespace Event

def incoming (severity : Severity) (id : TransactionId) (text : String) : Event :=
  ⟨severity, .incoming, some id, text, none⟩

def outgoing (severity : Severity) (id : TransactionId) (text : String) : Event :=
  ⟨severity, .outgoing, some id, text, none⟩

/-- An event of our own that belongs to no one transaction. -/
def own (severity : Severity) (text : String) : Event :=
  ⟨severity, .own, none, text, none⟩

def ownFor (severity : Severity) (id : TransactionId) (text : String) : Event :=
  ⟨severity, .own, some id, text, none⟩

/-- The work, or an activity in it, failed. -/
def failed (text : String) : Event :=
  ⟨.error, .activity, none, text, none⟩

/-- The event as part of an activity. -/
def within (activity : Activity) (event : Event) : Event :=
  { event with activity := some activity }

/-- An event is written when it is at least as grave as the threshold. -/
def passes (threshold : Severity) (event : Event) : Bool :=
  event.severity.rank ≤ threshold.rank

/-- The whole message: events of a transaction begin with its name. -/
def message (nameOf : TransactionId → String) (event : Event) : String :=
  match event.transaction with
  | some id => "[" ++ nameOf id ++ "] " ++ event.text
  | none => event.text

end Event

/-- A character of a log line.  Controls that a terminal would obey are spelled
out, so a log line cannot drive the terminal that shows it. -/
def logCharacter (c : Char) : List Char :=
  let v := c.toNat
  if v = 0x1B then ['\\', 'x', '1', 'b']
  else if v = 0x07 then ['\\', 'x', '0', '7']
  else if v = 0x08 then ['\\', 'x', '0', '8']
  else if v = 0x0C then ['\\', 'x', '0', 'c']
  else if v = 0x7F then ['\\', 'x', '7', 'f']
  else if 0x80 ≤ v ∧ v ≤ 0x9F then ['\\', 'u', '\x7b'] ++ Nat.toDigits 16 v ++ ['\x7d']
  else [c]

/-- A message as it stands in the written log. -/
def logLine (message : String) : String :=
  String.ofList (message.toList.flatMap logCharacter)

/-- The events of an activity: its begin, those in between, its end, and its failure
if it fails. -/
def Activity.framed (activity : Activity) (events : List Event) (failure : Option String) : List Event :=
  let mark (text : String) : Event := ⟨.trace, .activity, none, text, none⟩
  (mark "enter" :: events ++ mark "exit" :: (failure.map Event.failed).toList).map
    (Event.within activity)

/-- Text that a terminal shows in a style; the style ends with it. -/
def styled (style : Nat) (text : String) : String :=
  "\x1b[" ++ toString style ++ "m" ++ text ++ "\x1b[0m"

/-- A value with its name: the name is slanted and the sign between them faint. -/
def named (name value : String) : String :=
  styled 3 name ++ styled 2 "=" ++ value

/-- What the lines of an activity end with. -/
def Activity.label (activity : Activity) : String :=
  " " ++ styled 2 (named activity.subject activity.value)

namespace Event

/-- An event's own part of its line. -/
def body (nameOf : TransactionId → String) (event : Event) : String :=
  match event.direction with
  | .activity => event.text
  | _ => logLine (event.message nameOf)

/-- An event as a line of the log that is written from the threshold on. -/
def line (threshold : Severity) (nameOf : TransactionId → String) (event : Event) : String :=
  let label := match event.activity with
    | some activity => if activity.severity.rank ≤ threshold.rank then activity.label else ""
    | none => ""
  event.severity.label ++ " " ++ event.direction.label ++ ": " ++ event.body nameOf ++ label

/-- What a reader of lines takes for the event's message. -/
def firstLine (nameOf : TransactionId → String) (event : Event) : String :=
  String.ofList ((event.body nameOf).toList.takeWhile (· ≠ '\n'))

/-- What is written of an event behind its first line break, to the end of its last
line; nothing if all is on one line. -/
def overflow (threshold : Severity) (nameOf : TransactionId → String) (event : Event) : String :=
  match (event.line threshold nameOf).toList.dropWhile (· ≠ '\n') with
  | [] => ""
  | _ :: rest => String.ofList rest ++ "\n"

end Event

end ListExpansion
