/-
# ListExpansion.Ldap.WebHost -- the hosts that URLs of the web may name

The host of a URL is an IPv6 address in brackets or a name.  For the web's own
schemes a name has its percent signs undone and is a domain name.  A domain name
that ends like a number has to be an IPv4 address.

No directory is ever reached by such a URL; what is wrong with its host is said all
the same.
-/
import ListExpansion.DomainName.Basic
import ListExpansion.Host.Address
import ListExpansion.Text.Utf8

namespace ListExpansion.Ldap

set_option autoImplicit false

/-- Octets with `%xx` in place of single ones put back. -/
def percentDecoded : Bytes → Bytes
  | b :: x :: y :: rest =>
      if b = 0x25 then
        match IpAddress.hexValue? (Char.ofNat x.toNat), IpAddress.hexValue? (Char.ofNat y.toNat) with
        | some high, some low => UInt8.ofNat (high * 16 + low) :: percentDecoded rest
        | _, _ => b :: percentDecoded (x :: y :: rest)
      else b :: percentDecoded (x :: y :: rest)
  | b :: rest => b :: percentDecoded rest
  | [] => []

/-- What is wrong with a host. -/
inductive HostFault where
  | address6
  | address4
  | character
  | domain
  | empty
  deriving DecidableEq, Repr

def HostFault.message : HostFault → String
  | .address6 => "invalid IPv6 address"
  | .address4 => "invalid IPv4 address"
  | .character => "invalid domain character"
  | .domain => "invalid international domain name"
  | .empty => "empty host"

namespace WebHost

/-- The parts of a domain name; a point at its end counts for nothing. -/
def parts (domain : List Char) : List (List Char) :=
  let pieces := DomainName.labels domain
  if pieces.length > 1 ∧ pieces.getLast? = some [] then pieces.dropLast else pieces

/-- A part as a number; `0x` alone is zero. -/
def number? (part : List Char) : Option Nat :=
  if part = ['0', 'x'] ∨ part = ['0', 'X'] then some 0 else IpAddress.looseNumber? part

/-- Whether a domain name can only be meant as an IPv4 address. -/
def endsInNumber (domain : List Char) : Bool :=
  match (parts domain).getLast? with
  | some last => (!last.isEmpty && last.all Char.isDigit) || (number? last).isSome
  | none => false

/-- The domain name that a host's text stands for. -/
def domain? (host : List Char) : Option (List Char) :=
  DomainName.read? (Utf8.lossy (percentDecoded (Bytes.ofText (String.ofList host)))).toList

/-- Whether the host of a web address is well-formed. -/
def check (host : List Char) : Except HostFault Unit :=
  match domain? host with
  | none => .error .domain
  | some name =>
      if name.isEmpty then .error .empty
      else if endsInNumber name then
        match (parts name).mapM number? with
        | some numbers =>
            if (IpAddress.ofLooseNumbers? numbers).isSome then .ok () else .error .address4
        | none => .error .address4
      else .ok ()

end WebHost

end ListExpansion.Ldap
