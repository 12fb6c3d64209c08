/-
# ListExpansion.Ldap.Sharing -- one handle, many calls

Calls on one directory may overlap.  A search holds the lock from the request to
its answer, so searches wait for each other.  A disconnect takes the handle away
and lets go of the lock before it sends its own request; other calls may get the
lock in between, and find no handle.

`Sharing.move?` is one move of one call, and `Sharing.run?` any number of moves in
any order.  The requests that were handed to the client are recorded in order.
-/
import ListExpansion.Ldap.Directory

namespace ListExpansion.Ldap

set_option autoImplicit false

inductive Call where
  | search (search : Search)
  | disconnect

/-- How far a call has come. -/
inductive Progress where
  | waiting (call : Call)
  | searching (search : Search)
  /-- A disconnect has the handle to itself and is about to unbind. -/
  | holding
  | unbinding
  | searched (reply : Reply)
  | disconnected (result : Except DirectoryError Unit)

/-- A request handed to the client, and the call it was made for. -/
inductive Request where
  | search (caller : Nat) (search : Search)
  | unbind (caller : Nat)

structure Sharing where
  directory : LdapDirectory
  calls : List Progress
  requests : List Request

/-- What can happen next. -/
inductive Move where
  | call (call : Call)
  /-- A waiting call gets the lock. -/
  | enter (caller : Nat)
  /-- A disconnect sends its request. -/
  | unbind (caller : Nat)
  /-- A search is answered, and its values are gathered in this memory. -/
  | searchAnswered (caller : Nat) (outcome : Except ClientFailure (List SortedEntry))
      (memory : Memory)
  | unbindAnswered (caller : Nat) (outcome : Except ClientFailure Unit)

namespace Progress

/-- A search under way holds the lock. -/
def holdsLock : Progress → Bool
  | .searching _ => true
  | _ => false

end Progress

namespace Sharing

def start (directory : LdapDirectory) : Sharing := ⟨directory, [], []⟩

def isLocked (sharing : Sharing) : Bool := sharing.calls.any Progress.holdsLock

/-- The call `caller` is now at `progress`. -/
def set (sharing : Sharing) (caller : Nat) (progress : Progress) : Sharing :=
  { sharing with calls := sharing.calls.set caller progress }

def request (sharing : Sharing) (request : Request) : Sharing :=
  { sharing with requests := sharing.requests ++ [request] }

/-- A call that just got the lock. -/
def entered (sharing : Sharing) (caller : Nat) : Call → Sharing
  | .search search =>
      if sharing.directory.connected then
        (sharing.set caller (.searching search)).request (.search caller search)
      else sharing.set caller (.searched refusedReply)
  | .disconnect =>
      if sharing.directory.connected then
        { sharing.set caller .holding with
          directory := { sharing.directory with connected := false } }
      else sharing.set caller (.disconnected (.ok ()))

/-- One move, if it can happen now. -/
def move? (sharing : Sharing) : Move → Option Sharing
  | .call call => some { sharing with calls := sharing.calls ++ [.waiting call] }
  | .enter caller =>
      match sharing.calls[caller]? with
      | some (.waiting call) => if sharing.isLocked then none else some (sharing.entered caller call)
      | _ => none
  | .unbind caller =>
      match sharing.calls[caller]? with
      | some .holding => some ((sharing.set caller .unbinding).request (.unbind caller))
      | _ => none
  | .searchAnswered caller outcome memory =>
      match sharing.calls[caller]? with
      | some (.searching _) => some (sharing.set caller (.searched (searchReply memory outcome)))
      | _ => none
  | .unbindAnswered caller outcome =>
      match sharing.calls[caller]? with
      | some .unbinding =>
          some (sharing.set caller (.disconnected (unbindReply sharing.directory.host outcome).1))
      | _ => none

/-- These moves in turn, if each of them can happen when its turn comes. -/
def run? (sharing : Sharing) (moves : List Move) : Option Sharing := moves.foldlM move? sharing

end Sharing

end ListExpansion.Ldap
