/-
# ListExpansion.Config.Ldap -- the directory's settings

Where the directory is, who binds to it, how long to wait and what to ask.  A
password shows nowhere but in the bind itself: `Bind.describe` does not read it.

`LdapConfig.validate` names the first thing that is wrong, in a fixed order.
-/
import ListExpansion.Config.Error
import ListExpansion.Config.Reading
import ListExpansion.Directory.Query
import ListExpansion.Text.Blank

namespace ListExpansion

set_option autoImplicit false

/-- Who binds; without one the bind is anonymous. -/
structure Bind where
  dn : String
  password : String
  deriving DecidableEq, Repr

structure LdapConfig where
  /-- The directory's URL. -/
  host : String
  bind : Option Bind
  /-- How many seconds a connection may take to open; no limit without. -/
  connectSeconds : Option UInt64
  /-- How many seconds a search may take; the server's own limit without. -/
  searchSeconds : Option UInt64
  /-- From a list's address to its members. -/
  listQuery : Query
  /-- From an account to the addresses it owns. -/
  accountQuery : Query
  deriving DecidableEq

/-! ## What is shown of them -/

def Query.describe (query : Query) : String :=
  Text.record "QueryDefinition"
    [("base", Text.quote query.base), ("filter", Text.quote query.filter),
     ("result_attribute", Text.quote query.resultAttribute)]

/-- The name alone; the same text for every password. -/
def Bind.describe (bind : Bind) : String :=
  Text.record "Bind" [("dn", Text.quote bind.dn), ("password", Text.quote "<redacted>")]

def describeSeconds (seconds : Option UInt64) : String :=
  Text.option (seconds.map fun n => toString n.toNat)

def LdapConfig.describe (config : LdapConfig) : String :=
  Text.record "LdapConfig"
    [("host", Text.quote config.host), ("bind", Text.option (config.bind.map Bind.describe)),
     ("connect_secs", describeSeconds config.connectSeconds),
     ("search_secs", describeSeconds config.searchSeconds),
     ("mail_list_query", config.listQuery.describe),
     ("mail_account_query", config.accountQuery.describe)]

/-! ## Validity -/

/-- Nothing of a query may be blank. -/
def Query.validate (lookup : LookupName) (query : Query) : Except ConfigError Unit :=
  if Text.isBlank query.base then .error (.blankQuery lookup .base)
  else if Text.isBlank query.filter then .error (.blankQuery lookup .filter)
  else if Text.isBlank query.resultAttribute then .error (.blankQuery lookup .resultAttribute)
  else .ok ()

/-- A bind has a name to bind as and a password. -/
def Bind.validate (bind : Bind) : Except ConfigError Unit :=
  if Text.isBlank bind.dn then .error .noBindName
  else if bind.password.isEmpty then .error .noPassword
  else .ok ()

/-- Whether the directory can be used with these settings. -/
def LdapConfig.validate (config : LdapConfig) : Except ConfigError Unit := do
  if Text.isBlank config.host then throw .noHost
  match config.bind with
  | some bind => bind.validate
  | none => pure ()
  if config.searchSeconds = some 0 then throw .zeroSearchLimit
  config.listQuery.validate .list
  config.accountQuery.validate .account

/-! ## Reading -/

variable {ν : Type}

/-- The fields of a query. -/
def Query.baseField : Field := ⟨["base"], 0, 3⟩

def Query.filterField : Field := ⟨["filter", "filter_template"], 1, 3⟩

def Query.resultField : Field := ⟨["result_attribute", "result"], 2, 3⟩

/-- The fields of a bind. -/
def Bind.dnField : Field := ⟨["dn"], 0, 2⟩

def Bind.passwordField : Field := ⟨["password", "passwd", "pwd"], 1, 2⟩

namespace LdapConfig

/-- The fields of the directory's settings. -/
def hostField : Field := ⟨["host"], 0, 6⟩

def bindField : Field := ⟨["bind"], 1, 6⟩

def connectField : Field := ⟨["connect_secs"], 2, 6⟩

def searchField : Field := ⟨["search_secs"], 3, 6⟩

def listField : Field := ⟨["mail_list_query", "list_query"], 4, 6⟩

def accountField : Field := ⟨["mail_account_query", "acct_query", "account_query"], 5, 6⟩

end LdapConfig

def Query.read (reading : Reading ν) (value : ν) : Option Query := do
  let given ← reading.record? value
  let base ← given.required baseField reading.text?
  let filter ← given.required filterField reading.text?
  let resultAttribute ← given.required resultField reading.text?
  return ⟨base, filter, resultAttribute⟩

def Bind.read (reading : Reading ν) (value : ν) : Option Bind := do
  let given ← reading.record? value
  let dn ← given.required dnField reading.text?
  let password ← given.required passwordField reading.text?
  return ⟨dn, password⟩

def LdapConfig.read (reading : Reading ν) (value : ν) : Option LdapConfig := do
  let given ← reading.record? value
  let host ← given.required hostField reading.text?
  let bind ← given.defaulting bindField none (reading.option (Bind.read reading))
  let connect ← given.defaulting connectField none (reading.option reading.seconds?)
  let search ← given.defaulting searchField none (reading.option reading.seconds?)
  let list ← given.required listField (Query.read reading)
  let account ← given.required accountField (Query.read reading)
  return ⟨host, bind, connect, search, list, account⟩

end ListExpansion
