/-
# ListExpansion.Host.Loopback -- a host without a network

What comes of listening on a port is up to the network a machine is in
(`Machine.listen`).  Here it is that of a host which has no other address than its own:
it knows itself by name, its low ports need a privilege that nobody has, and of IPv6
there is nothing but the address of all interfaces.
-/
import ListExpansion.Host.Address
import ListExpansion.Host.Error
import ListExpansion.Text.Blank

namespace ListExpansion.Loopback

set_option autoImplicit false

/-- The first port that needs no privilege. -/
def unprivileged : Nat := 1024

/-- The address of a host given by address, in either form, or by the name of this
host. -/
def resolve (host : String) : Except IoError IpAddress :=
  match (IpAddress.parse? host).or ((IpAddress.parseLooseV4? host.toList).map .v4) with
  | some address => .ok address
  | none =>
      if Text.lowerAscii host = "localhost" then .ok (.v4 0x7F000001) else .error .unknownHost

/-- Whether two listeners would be in each other's way. -/
def clash (a b : IpAddress × Nat) : Bool :=
  a.2 == b.2 && a.2 != 0 && (a.1 == b.1 || a.1.isWildcard || b.1.isWildcard)

/-- Listening on a port beside those that are `taken`.  Port 0 stands for any free one. -/
def listen (taken : List (IpAddress × Nat)) (host : String) (port : Nat) :
    Except IoError (IpAddress × Nat) :=
  match resolve host with
  | .error error => .error error
  | .ok address =>
      if 0 < port ∧ port < unprivileged then .error .accessDenied
      else
        let unavailable := match address with
          | .v6 value => value != 0
          | .v4 _ => false
        if unavailable then .error .addressUnavailable
        else if taken.any (clash (address, port)) then .error .addressInUse
        else .ok (address, port)

/-- Why another host is out of reach. -/
def unreachable (host : String) : IoError :=
  match resolve (String.ofList (host.toList.filter fun c => c ≠ '[' ∧ c ≠ ']')) with
  | .error error => error
  | .ok _ => .networkUnreachable

end ListExpansion.Loopback
