/-
# ListExpansion.Ldap.Url -- what an LDAP URL leads to

`ldapi` names a socket file by its percent-encoded path in place of the host;
`ldap` and `ldaps` have to name a host and may name a port.  What follows the host
is not looked at.  The URL is read the way browsers read URLs: surrounding blanks and
inner line breaks do not count, and the scheme is no matter of case.

`Target.ofUrl` either finds the target or says why there is none.  A URL of the network
that names no host is no failure; where it leads there is nothing to be opened.
-/
import ListExpansion.Directory.Status
import ListExpansion.Ldap.WebHost

namespace ListExpansion.Ldap

set_option autoImplicit false

/-- Where a URL leads. -/
inductive Target where
  | socketFile (path : Bytes)
  | service (host : String) (port : Nat)
  /-- A port of no host at all. -/
  | nowhere
  deriving DecidableEq, Repr

namespace Url

/-- The text without blanks around it and without tabs and line breaks in it. -/
def normalized (url : String) : List Char :=
  (Text.trimBoth (fun c => c.toNat ≤ 0x20) url.toList).filter fun c =>
    c ≠ '\t' ∧ c ≠ '\n' ∧ c ≠ '\r'

def inScheme (c : Char) : Bool := c.isAlphanum || c == '+' || c == '-' || c == '.'

/-- The scheme in lower case, and what follows its colon. -/
def scheme? (url : List Char) : Option (String × List Char) :=
  let name := url.takeWhile inScheme
  match name, url.drop name.length with
  | first :: _, ':' :: rest =>
      if first.isAlpha then some (String.ofList (name.map Char.toLower), rest) else none
  | _, _ => none

/-- How URLs of a scheme are read. -/
inductive Family where
  /-- Their host is a domain name, and there always is one, slashes or not. -/
  | web
  /-- They may name a host between two slashes and the next. -/
  | file
  /-- All others: their host, behind two slashes, may be any text. -/
  | plain
  deriving DecidableEq, Repr

def Family.of (scheme : String) : Family :=
  if ["http", "https", "ws", "wss", "ftp"].contains scheme then .web
  else if scheme = "file" then .file
  else .plain

def endsAuthority (family : Family) (c : Char) : Bool :=
  c == '/' || c == '?' || c == '#' || (family ≠ .plain && c == '\\')

/-- What stands before and after the last `@`, if there is one. -/
def cutAtLastAt (authority : List Char) : Option (List Char × List Char) :=
  let reversed := authority.reverse
  let after := reversed.takeWhile (· ≠ '@')
  match reversed.drop after.length with
  | _ :: before => some (before.reverse, after.reverse)
  | [] => none

/-- A host's text, which may hold colons inside square brackets, and the rest. -/
def hostText : (bracketed : Bool) → List Char → List Char × List Char
  | _, [] => ([], [])
  | bracketed, c :: rest =>
      if c = ':' ∧ ¬ bracketed then ([], c :: rest)
      else
        let (host, rest) := hostText (if c = '[' then true else if c = ']' then false else bracketed) rest
        (c :: host, rest)

/-- Characters that no host may hold. -/
def isForbidden (c : Char) : Bool :=
  ['\x00', '\t', '\n', '\r', ' ', '#', '/', ':', '<', '>', '?', '@', '[', '\\', ']', '^', '|'].contains c

/-- Whether a host is well-formed: an IPv6 address in brackets, or a name. -/
def checkHost (family : Family) (host : List Char) : Except HostFault Unit :=
  match host with
  | '[' :: inner =>
      match inner.reverse with
      | ']' :: address =>
          if (IpAddress.parseV6? address.reverse).isSome then .ok () else .error .address6
      | _ => .error .address6
  | _ =>
      if family ≠ .plain then WebHost.check host
      else if host.any isForbidden then .error .character
      else .ok ()

/-- A port behind a host: nothing, a colon alone, or a colon and a number.  For the
web a backslash ends it too, and elsewhere it does no harm. -/
def port? (text : List Char) : Except ClientFailure (Option Nat) :=
  match text with
  | ':' :: rest =>
      let digits := rest.takeWhile (· ≠ '\\')
      if digits.isEmpty then .ok none
      else if digits.all Char.isDigit then
        let value := digits.foldl (fun value c => value * 10 + (c.toNat - '0'.toNat)) 0
        if value ≤ 65535 then .ok (some value) else .error (.url "invalid port number")
      else .error (.url "invalid port number")
  | _ => .ok none

/-- Whether a user or a password is named; a colon alone names neither. -/
def namesUser (user : List Char) : Bool := !user.isEmpty && user ≠ [':']

/-- The host and the port of an authority. -/
def authority (family : Family) (text : List Char) : Except ClientFailure (List Char × Option Nat) :=
  let part := text.takeWhile fun c => !endsAuthority family c
  let closed := part.length < text.length
  let (user, place) := (cutAtLastAt part).getD ([], part)
  let named := (cutAtLastAt part).isSome
  let empty : ClientFailure := .url HostFault.empty.message
  if named ∧ user.isEmpty ∧ place.isEmpty ∧ closed then .error empty
  else
    let (host, rest) := hostText false place
    if host.isEmpty ∧ (family = .web ∨ rest.head? = some ':') then .error empty
    else
      match checkHost family host, port? rest with
      | .error fault, _ => .error (.url fault.message)
      | .ok (), .error failure => .error failure
      | .ok (), .ok port =>
          if host.isEmpty ∧ namesUser user then .error empty else .ok (host, port)

/-- A letter that stands for a drive and not for a host. -/
def isDrive : List Char → Bool
  | [letter, mark] => letter.isAlpha && (mark == ':' || mark == '|')
  | _ => false

/-- What stands between two slashes and the next in the URL of a file has to be a
host if it is anything. -/
def checkFile : List Char → Except ClientFailure Unit
  | a :: b :: rest =>
      let slash (c : Char) : Bool := c == '/' || c == '\\'
      let host := rest.takeWhile fun c => !endsAuthority .file c
      if !(slash a && slash b) || host.isEmpty || isDrive host then .ok ()
      else (checkHost .file host).mapError fun fault => .url fault.message
  | _ => .ok ()

/-- The host and port that a URL names behind its scheme. -/
def located (family : Family) (text : List Char) : Except ClientFailure (List Char × Option Nat) :=
  match family, text with
  | .web, text => authority .web (text.dropWhile fun c => c == '/' || c == '\\')
  | .file, text => (checkFile text).map fun () => ([], none)
  | .plain, '/' :: '/' :: text => authority .plain text
  | .plain, _ => .ok ([], none)

/-- The path that the host of an `ldapi` URL encodes. -/
def socketPath (host : List Char) : Except ClientFailure Target :=
  if host.isEmpty then .error .emptySocketPath
  else if host.contains ':' then .error .portInSocketPath
  else
    let path := percentDecoded (Bytes.ofText (String.ofList host))
    .ok (.socketFile (Bytes.ofText (Utf8.lossy path)))

/-- The host and port that a directory is at when the URL does not say which port. -/
def place (host : List Char) (port : Option Nat) (usual : Nat) : Target :=
  if host.isEmpty then .nowhere else .service (String.ofList host) (port.getD usual)

end Url

/-- Where `url` leads. -/
def Target.ofUrl (url : String) : Except ClientFailure Target :=
  match Url.scheme? (Url.normalized url) with
  | none => .error (.url "relative URL without a base")
  | some (scheme, rest) =>
      match Url.located (Url.Family.of scheme) rest with
      | .error failure => .error failure
      | .ok (host, port) =>
          if scheme = "ldapi" then Url.socketPath host
          else if scheme = "ldap" then .ok (Url.place host port 389)
          else if scheme = "ldaps" then .ok (Url.place host port 636)
          else .error (.unknownScheme scheme)

end ListExpansion.Ldap
