/-
# ListExpansion.Directory.Status -- what went wrong, as the directory puts it

A failed request leaves a result code and a text if a server answered it, and a
text alone if no answer came.
-/

namespace ListExpansion

set_option autoImplicit false

/-- A result code has 32 bits; what a server sends beyond them is lost. -/
def resultCode (sent : Nat) : Nat := sent % UInt32.size

structure LdapStatus where
  code : Option Nat
  text : String
  deriving DecidableEq, Repr

/-- What a request to a server can end in, other than success. -/
inductive ClientFailure where
  /-- The server answered with this result code, text and matched name. -/
  | result (code : Nat) (text : String) (matched : String)
  | endOfStream
  | filterParsing
  | decodingText
  | unknownScheme (scheme : String)
  | adapter (reason : String)
  | io (reason : String)
  | sending
  | receiving
  | url (reason : String)
  | emptySocketPath
  | portInSocketPath
  /-- Opening the connection, or waiting for an answer, took longer than it may. -/
  | timeout
  /-- Anything else, by the client's own words. -/
  | other (text : String)
  deriving DecidableEq, Repr

/-- Short names of the result codes a mail filter is likely to meet. -/
def resultName : Nat → String
  | 0 => "Success"
  | 1 => "Operations error"
  | 2 => "Protocol error"
  | 3 => "Time limit exceeded"
  | 4 => "Size limit exceeded"
  | 32 => "No such object"
  | 34 => "Invalid DN syntax"
  | 48 => "Inappropriate authentication"
  | 49 => "Invalid credentials"
  | 50 => "Insufficient access"
  | 51 => "Server is busy"
  | 52 => "Server is unavailable"
  | 53 => "Server is unwilling to perform"
  | _ => "Unknown result code"

/-- A server's own text is kept; an empty one gives way to the name of the code. -/
def ClientFailure.status : ClientFailure → LdapStatus
  | .result code text _ => ⟨some code, if text.isEmpty then resultName code else text⟩
  | .endOfStream => ⟨none, "premature end of search stream"⟩
  | .filterParsing => ⟨none, "filter parse error"⟩
  | .decodingText => ⟨none, "utf8 decoding error"⟩
  | .unknownScheme scheme => ⟨none, "unknown LDAP URL scheme: " ++ scheme⟩
  | .adapter reason => ⟨none, "adapter init error: " ++ reason⟩
  | .io reason => ⟨none, "I/O error: " ++ reason⟩
  | .sending => ⟨none, "op send error: channel closed"⟩
  | .receiving => ⟨none, "result recv error: channel closed"⟩
  | .url reason => ⟨none, "url parse error: " ++ reason⟩
  | .emptySocketPath => ⟨none, "empty Unix domain socket path"⟩
  | .portInSocketPath => ⟨none, "the port must be empty in the ldapi scheme"⟩
  | .timeout => ⟨none, "timeout: deadline has elapsed"⟩
  | .other text => ⟨none, text⟩

/-- The text, and the code in parentheses when there is one. -/
def LdapStatus.describe (status : LdapStatus) : String :=
  match status.code with
  | some code => status.text ++ " (" ++ toString code ++ ")"
  | none => status.text

end ListExpansion
