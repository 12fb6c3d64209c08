/-
# ListExpansion.Ldap.TimeLimit -- how long a search is waited for

A client library may be told, before a search, how many seconds it is to wait for the
answer; then it gives the search up when they are over.  A directory says the same before
every search, what its settings say, and says nothing if they do not.  A bind and an unbind
are waited for as long as they take.

What a directory sees of its library is a `Client` (`Library.under`).
-/
import ListExpansion.Ldap.Directory

namespace ListExpansion.Ldap

set_option autoImplicit false

/-- What waits for a server in state `κ`. -/
structure Library (κ : Type) where
  bind : (dn password : String) → κ → Except ClientFailure Unit × κ
  /-- Waits for at most `limit` seconds, if there is a limit. -/
  search : (limit : Option UInt64) → Search → κ → Except ClientFailure (List SortedEntry) × κ
  unbind : κ → Except ClientFailure Unit × κ
  memory : κ → Memory

/-- The library as a directory with these settings uses it. -/
def Library.under {κ : Type} (library : Library κ) (config : LdapConfig) : Client κ where
  bind := library.bind
  search := library.search config.searchSeconds
  unbind := library.unbind
  memory := library.memory

end ListExpansion.Ldap
