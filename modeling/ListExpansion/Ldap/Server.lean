/-
# ListExpansion.Ldap.Server -- a server that follows a script

The server records what it is sent.  It answers the bind with one reply and the
searches with a list of them, in order; when the list is used up, a search finds
nothing.  A reply may be to hang up, and then nothing more gets through.

The client checks a filter before it sends anything.
-/
import ListExpansion.Ldap.Directory
import ListExpansion.Ldap.Filter

namespace ListExpansion.Ldap

set_option autoImplicit false

inductive ServerReply where
  | answer (entries : List Entry) (code : Nat) (text : String)
  | hangUp

/-- What a server was sent. -/
inductive Received where
  | bind (dn password : String)
  | search (search : Search)
  | unbind
  deriving DecidableEq, Repr

structure Server where
  bindReply : ServerReply
  searchReplies : List ServerReply
  received : List Received
  hungUp : Bool

namespace ServerReply

/-- Success, and nothing found. -/
def nothingFound : ServerReply := .answer [] 0 ""

end ServerReply

namespace Server

def new (bindReply : ServerReply) (searchReplies : List ServerReply) : Server :=
  ⟨bindReply, searchReplies, [], false⟩

def receive (server : Server) (request : Received) : Server :=
  { server with received := server.received ++ [request] }

/-- An answer's entries, if its code is that of success. -/
def entriesOf (entries : List Entry) (code : Nat) (text : String) :
    Except ClientFailure (List SortedEntry) :=
  if resultCode code = 0 then .ok (entries.map Entry.sorted)
  else .error (.result (resultCode code) text "")

def bind (dn password : String) (server : Server) : Except ClientFailure Unit × Server :=
  if server.hungUp then (.error .sending, server)
  else
    let server := server.receive (.bind dn password)
    match server.bindReply with
    | .hangUp => (.error .receiving, { server with hungUp := true })
    | .answer entries code text => ((entriesOf entries code text).map fun _ => (), server)

def search (search : Search) (server : Server) :
    Except ClientFailure (List SortedEntry) × Server :=
  if !Filter.isFilter search.filter then (.error .filterParsing, server)
  else if server.hungUp then (.error .sending, server)
  else
    let after := { server.receive (.search search) with searchReplies := server.searchReplies.tail }
    match server.searchReplies.headD .nothingFound with
    | .hangUp => (.error .endOfStream, { after with hungUp := true })
    | .answer entries code text => (entriesOf entries code text, after)

def unbind (server : Server) : Except ClientFailure Unit × Server :=
  if server.hungUp then (.error .sending, server) else (.ok (), server.receive .unbind)

/-- Whether an unbind ever arrived. -/
def wasUnbound (server : Server) : Bool := server.received.contains .unbind

/-- A client of this server, where memory never runs out. -/
def client : Client Server where
  bind := bind
  search := search
  unbind := unbind
  memory _ := .ample

end Server

end ListExpansion.Ldap
