/-
# ListExpansion.Directory.Error -- why a lookup failed

One constructor for each cause.  Only `resourceExhausted` is a failure of this
process rather than of the directory.
-/
import ListExpansion.Directory.Status
import ListExpansion.Address.Set

namespace ListExpansion

set_option autoImplicit false

/-- The parts of a query that an address is put into. -/
inductive QueryField where
  | base
  | filter
  deriving DecidableEq, Repr

def QueryField.name : QueryField → String
  | .base => "base"
  | .filter => "filter"

inductive DirectoryError where
  | connect (url : String) (status : LdapStatus)
  | bind (dn : String) (status : LdapStatus)
  | search (status : LdapStatus)
  | unbind (status : LdapStatus)
  | notConnected
  /-- The field is not text once the address stands in it. -/
  | encoding (field : QueryField)
  | resourceExhausted (cause : Exhaustion)
  deriving DecidableEq, Repr

namespace DirectoryError

def message : DirectoryError → String
  | .connect url status => "Failed to connect to " ++ url ++ ": " ++ status.describe
  | .bind dn status => "Bind as " ++ dn ++ " failed: " ++ status.describe
  | .search status => "Search failed: " ++ status.describe
  | .unbind status => "Unbind failed: " ++ status.describe
  | .notConnected => "Not connected to the directory"
  | .encoding field => "Query " ++ field.name ++ " is not valid UTF-8 after substitution"
  | .resourceExhausted cause => "Resource exhausted: " ++ cause.message

/-- The result code behind the error, if a server gave one. -/
def code : DirectoryError → Option Nat
  | .connect _ status => status.code
  | .bind _ status => status.code
  | .search status => status.code
  | .unbind status => status.code
  | .notConnected => none
  | .encoding _ => none
  | .resourceExhausted _ => none

def isResourceExhaustion : DirectoryError → Bool
  | .resourceExhausted _ => true
  | _ => false

end DirectoryError

end ListExpansion
