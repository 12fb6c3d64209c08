/-
# ListExpansion.Ldap.Dial -- opening a connection to a directory

How a connection is opened is up to the client library and to the network: it may be
opened, fail in any way, also for taking too long, or the library may break off.  So it is
a parameter (`Dial`).

`Dial.onHost` is that of a host without a network, where at most one directory listens, on
a socket file.
-/
import ListExpansion.Daemon.Failure
import ListExpansion.Host.Machine
import ListExpansion.Ldap.Url

namespace ListExpansion.Ldap

set_option autoImplicit false

/-- What comes of opening a connection. -/
abbrev Opening := Upshot (Except ClientFailure Unit)

/-- How connections are opened from a machine to where a URL leads, in at most `limit`
seconds if there is a limit. -/
abbrev Dial := (limit : Option UInt64) → (url : String) → Machine → Opening

/-- The last words of a client that was given a URL of the network without a host. -/
def hostlessWords : String := "unexpected None from url.host_str()"

/-- Nothing is found but socket files; the directory's server listens on the socket
`listening`, if it is there at all. -/
def Dial.onHost (listening : Option Nat) : Dial := fun _ url machine =>
  match Target.ofUrl url with
  | .error failure => .ended (.error failure)
  | .ok .nowhere => .brokeOff hostlessWords
  | .ok (.service host _) => .ended (.error (.io (Loopback.unreachable host).message))
  | .ok (.socketFile path) =>
      match machine.connect path with
      | .error error => .ended (.error (.io error.message))
      | .ok endpoint =>
          .ended (if listening = some endpoint then .ok () else .error .receiving)

end ListExpansion.Ldap
