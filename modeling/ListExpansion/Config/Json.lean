/-
# ListExpansion.Config.Json -- directory settings as JSON

An object keeps its members in order and keeps repeated names, so that a setting
given twice can be told from one given once.  Numbers are decimal fractions; one
written with a point is never a whole number, whatever its value.

Reading (`LdapConfig.ofJson?`) takes an object or, with all fields there, a list.
-/
import ListExpansion.Config.Ldap

namespace ListExpansion.Config

set_option autoImplicit false

inductive Json where
  | null
  | bool (value : Bool)
  /-- `mantissa / 10 ^ places`. -/
  | number (mantissa : Int) (places : Nat)
  | text (value : String)
  | list (items : List Json)
  | object (members : List (String × Json))
  deriving Inhabited

namespace Json

def text? : Json → Option String
  | .text value => some value
  | _ => none

/-- A whole number of seconds that fits 64 bits. -/
def seconds? : Json → Option UInt64
  | .number mantissa places =>
      if places = 0 ∧ 0 ≤ mantissa ∧ mantissa.toNat < UInt64.size then some (UInt64.ofNat mantissa.toNat)
      else none
  | _ => none

def optional? : Json → Option (Option Json)
  | .null => some none
  | value => some (some value)

def record? : Json → Option (Given Json)
  | .object members => some (.named members)
  | .list items => some (.inOrder items)
  | _ => none

def reading : Reading Json where
  text? := text?
  seconds? := seconds?
  optional? := optional?
  record? := record?

/-- `null` for an absent value. -/
def ofOption {α : Type} (write : α → Json) : Option α → Json
  | some value => write value
  | none => .null

def ofSeconds (seconds : UInt64) : Json := .number seconds.toNat 0

end Json

end ListExpansion.Config

namespace ListExpansion

open Config (Json)

def Query.toJson (query : Query) : Json :=
  .object [("base", .text query.base), ("filter", .text query.filter),
    ("result_attribute", .text query.resultAttribute)]

/-- Unlike what the log shows, this holds the password. -/
def Bind.toJson (bind : Bind) : Json :=
  .object [("dn", .text bind.dn), ("password", .text bind.password)]

def LdapConfig.toJson (config : LdapConfig) : Json :=
  .object [("host", .text config.host), ("bind", .ofOption Bind.toJson config.bind),
    ("connect_secs", .ofOption Json.ofSeconds config.connectSeconds),
    ("search_secs", .ofOption Json.ofSeconds config.searchSeconds),
    ("mail_list_query", config.listQuery.toJson),
    ("mail_account_query", config.accountQuery.toJson)]

def LdapConfig.ofJson? (json : Json) : Option LdapConfig :=
  LdapConfig.read Json.reading json

end ListExpansion
