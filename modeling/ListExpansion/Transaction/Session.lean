/-
# ListExpansion.Transaction.Session -- who sends, and on whose behalf

A session is the identity captured when a transaction names its sender: the
sender without its angle brackets and the account that authenticated.  Capturing
copies both and fails when memory for a copy cannot be had.
-/
import ListExpansion.Address.Parts
import ListExpansion.Address.Set

namespace ListExpansion

set_option autoImplicit false

structure Session where
  sender : Bytes
  account : Bytes
  deriving DecidableEq, Repr

/-- The two copies a capture makes, in this order. -/
inductive CapturedPart where
  | sender
  | account
  deriving DecidableEq, Repr

/-- A session could not be captured. -/
structure CaptureError where
  cause : Exhaustion
  deriving DecidableEq, Repr

def CaptureError.message (error : CaptureError) : String :=
  "Resource exhausted: " ++ error.cause.message

namespace Session

/-- Captures `sender` and `account`; `grants` says which copy gets its memory. -/
def capture? (grants : CapturedPart → Bool) (sender account : Bytes) :
    Except CaptureError Session :=
  if grants .sender && grants .account then .ok ⟨stripAngleBrackets sender, account⟩
  else .error ⟨.allocatorRefused⟩

/-- The session as the log shows it. -/
def describe (session : Session) : String :=
  Text.record "SessionState"
    [("envelope_sender", Text.quote (Utf8.lossy session.sender)),
     ("auth_account", Text.quote (Utf8.lossy session.account))]

end Session

end ListExpansion
