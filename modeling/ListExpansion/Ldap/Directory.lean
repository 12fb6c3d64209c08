/-
# ListExpansion.Ldap.Directory -- a directory behind one connection

The connection is opened and bound once and serves every transaction.  Its handle
is there until the directory is disconnected; what is asked afterwards answers
`notConnected` and reaches nobody.

Requests go through a `Client`, whose answers are anyone's guess, and so is the memory
that there is for them.  What an answer comes to is said apart from how it is got
(`searchReply`, `unbindReply`), because requests of several transactions may wait for
each other.
-/
import ListExpansion.Config.Ldap
import ListExpansion.Ldap.Entry

namespace ListExpansion.Ldap

set_option autoImplicit false

/-- What talks to a server in state `κ`. -/
structure Client (κ : Type) where
  bind : (dn password : String) → κ → Except ClientFailure Unit × κ
  search : Search → κ → Except ClientFailure (List SortedEntry) × κ
  unbind : κ → Except ClientFailure Unit × κ
  /-- The memory that there is for what a search has found. -/
  memory : κ → Memory

/-- The event that an answer leaves. -/
def matchedEvent (entries : List SortedEntry) : Event :=
  .own .debug s!"{entries.length} entries matched"

/-- What a search comes to, once it is answered. -/
def searchReply (memory : Memory) : Except ClientFailure (List SortedEntry) → Reply
  | .error failure => ⟨.error (.search failure.status), []⟩
  | .ok entries =>
      let (addresses, events) := collect memory entries
      ⟨addresses.mapError .resourceExhausted, matchedEvent entries :: events⟩

/-- What a search comes to when the handle is gone. -/
def refusedReply : Reply := ⟨.error .notConnected, []⟩

/-- What an unbind comes to, once it is answered. -/
def unbindReply (host : String) : Except ClientFailure Unit → Except DirectoryError Unit × List Event
  | .error failure => (.error (.unbind failure.status), [])
  | .ok () => (.ok (), [.own .info ("Disconnected from " ++ host)])

/-- Who binds, as messages call him. -/
def bindName (dn : String) : String := if dn.isEmpty then "<anonymous>" else dn

/-- The name and password to bind with; both are empty for an anonymous bind. -/
def credentials (config : LdapConfig) : String × String :=
  match config.bind with
  | some bind => (bind.dn, bind.password)
  | none => ("", "")

/-- Opening a connection to a host and leaving it are activities. -/
def activity (host : String) : Activity := ⟨.debug, "host", host⟩

structure LdapDirectory where
  host : String
  /-- The handle is there. -/
  connected : Bool

namespace LdapDirectory

variable {κ : Type}

/-- Binds on a connection that was opened, or could not be. -/
def start (client : Client κ) (config : LdapConfig) (opening : Except ClientFailure Unit)
    (server : κ) : Except DirectoryError LdapDirectory × κ :=
  match opening with
  | .error failure => (.error (.connect config.host failure.status), server)
  | .ok () =>
      let (dn, password) := credentials config
      match client.bind dn password server with
      | (.error failure, server) => (.error (.bind (bindName dn) failure.status), server)
      | (.ok (), server) => (.ok ⟨config.host, true⟩, server)

/-- Starts with a connection that was opened, or could not be, and says how it went. -/
def connect (client : Client κ) (config : LdapConfig) (opening : Except ClientFailure Unit)
    (server : κ) : Except DirectoryError LdapDirectory × κ × List Event :=
  match start client config opening server with
  | (.error error, server) =>
      (.error error, server, (activity config.host).framed [] (some error.message))
  | (.ok directory, server) =>
      let greeting := s!"Connected to {config.host} as {bindName (credentials config).1}"
      (.ok directory, server, (activity config.host).framed [.own .info greeting] none)

/-- Answers a search as long as the handle is there. -/
def search (client : Client κ) (search : Search) (directory : LdapDirectory) (server : κ) :
    Reply × κ :=
  if directory.connected then
    let (outcome, server) := client.search search server
    (searchReply (client.memory server) outcome, server)
  else (refusedReply, server)

/-- Gives up the handle and unbinds.  A second time there is nothing to do. -/
def disconnect (client : Client κ) (directory : LdapDirectory) (server : κ) :
    Except DirectoryError Unit × LdapDirectory × κ × List Event :=
  if directory.connected then
    let (outcome, server) := client.unbind server
    let (result, events) := unbindReply directory.host outcome
    (result, { directory with connected := false }, server,
      (activity directory.host).framed events none)
  else (.ok (), directory, server, (activity directory.host).framed [] none)

/-- As a directory: the server changes by being asked, the handle does not. -/
def asDirectory (client : Client κ) : Directory (LdapDirectory × κ) where
  search search state :=
    let (reply, server) := LdapDirectory.search client search state.1 state.2
    (reply, (state.1, server))

end LdapDirectory

end ListExpansion.Ldap
