/-
# ListExpansion.Config.Socket -- where the milter listens

A socket is written the way mail servers write milter sockets: `unix:/path`,
`local:/path` or just `/path`, and `inet:port@host` or `inet6:port@host`.  The
case of the scheme matters and nothing is trimmed but the brackets around a host.

`Socket.parse?` reads the text and `Socket.toText` writes it.
-/
import ListExpansion.Config.Error
import ListExpansion.Host.Path

namespace ListExpansion

set_option autoImplicit false

inductive Socket where
  | unix (path : Bytes)
  | inet (host : String) (port : Nat)
  deriving DecidableEq, Repr

/-- `chars` before and after the first `separator`. -/
def cutChars (separator : Char) : List Char → Option (List Char × List Char)
  | [] => none
  | c :: rest =>
      if c = separator then some ([], rest)
      else (cutChars separator rest).map fun (before, after) => (c :: before, after)

/-- The number that decimal digits stand for. -/
def decimal (digits : List Char) : Nat :=
  digits.foldl (fun value digit => value * 10 + (digit.toNat - '0'.toNat)) 0

/-- An optional `+` and decimal digits: a port other than 0. -/
def parsePort? (text : List Char) : Option Nat :=
  let digits := if text.head? = some '+' then text.tail else text
  if digits.isEmpty then none
  else if digits.all Char.isDigit then
    let port := decimal digits
    if 1 ≤ port ∧ port ≤ 65535 then some port else none
  else none

/-- A host without its leading `[` and its trailing `]`, however many. -/
def unbracketed (host : List Char) : List Char :=
  ((host.dropWhile (· = '[')).reverse.dropWhile (· = ']')).reverse

namespace Socket

/-- Where the milter listens when nothing else is configured. -/
def default : Socket := .unix (Bytes.ofText "/run/milter-alias/milter-alias.sock")

/-- The part of an `inet` socket after its scheme: `port@host`. -/
def parseEndpoint? (rest : List Char) : Option Socket :=
  match cutChars '@' rest with
  | none => none
  | some (portText, hostText) =>
      match parsePort? portText with
      | none => none
      | some port =>
          let host := unbracketed hostText
          if host.isEmpty then none else some (.inet (String.ofList host) port)

def parseChars? (text : List Char) : Option Socket :=
  if text.head? = some '/' then some (.unix (Bytes.ofText (String.ofList text)))
  else
    match cutChars ':' text with
    | none => none
    | some (scheme, rest) =>
        if scheme = "unix".toList ∨ scheme = "local".toList then
          if rest.head? = some '/' then some (.unix (Bytes.ofText (String.ofList rest))) else none
        else if scheme = "inet".toList ∨ scheme = "inet6".toList then parseEndpoint? rest
        else none

/-- Reads a socket; the error carries the text as it was given. -/
def parse (text : String) : Except ConfigError Socket :=
  match parseChars? text.toList with
  | some socket => .ok socket
  | none => .error (.socket text)

/-- A host with a colon in it is an IPv6 address. -/
def toText : Socket → String
  | .unix path => "unix:" ++ Utf8.lossy path
  | .inet host port =>
      (if host.toList.contains ':' then "inet6:" else "inet:") ++ toString port ++ "@" ++ host

/-- Paths are the same when they are alike; hosts are compared as they are written. -/
def same : Socket → Socket → Bool
  | .unix a, .unix b => Path.alike a b
  | .inet hostA portA, .inet hostB portB => hostA == hostB && portA == portB
  | _, _ => false

/-- The socket as the log shows it. -/
def describe : Socket → String
  | .unix path => "Unix(" ++ Text.quoteOctets path ++ ")"
  | .inet host port => Text.record "Inet" [("host", Text.quote host), ("port", toString port)]

end Socket

end ListExpansion
