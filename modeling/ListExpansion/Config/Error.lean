/-
# ListExpansion.Config.Error -- what can be wrong with a configuration

One constructor for each thing that can be missing, unusable or unreadable.
-/
import ListExpansion.Text.Quoted

namespace ListExpansion

set_option autoImplicit false

/-- The two lookups that are configured. -/
inductive LookupName where
  | list
  | account
  deriving DecidableEq, Repr

/-- The three texts of a query, as the configuration names them. -/
inductive QueryPart where
  | base
  | filter
  | resultAttribute
  deriving DecidableEq, Repr

inductive ConfigError where
  | noHost
  /-- A bind without a name to bind as. -/
  | noBindName
  /-- A bind without a password, which a server would take for an anonymous one. -/
  | noPassword
  | zeroSearchLimit
  | blankQuery (lookup : LookupName) (part : QueryPart)
  | emptyPidFile
  | socket (text : String)
  | logLevel (text : String)
  | unreadable (path : Bytes) (reason : String)
  | unparsable (path : Bytes)
  deriving DecidableEq, Repr

def LookupName.field : LookupName → String
  | .list => "ldap.mail_list_query"
  | .account => "ldap.mail_account_query"

def QueryPart.name : QueryPart → String
  | .base => "base"
  | .filter => "filter"
  | .resultAttribute => "result_attribute"

namespace ConfigError

/-- The text for a value that is missing. -/
def missing (field : String) : String := "Missing required field: " ++ field

/-- The text for a value that is present but unusable. -/
def unusable (field reason : String) : String :=
  s!"Invalid configuration for {field}: {reason}"

def message : ConfigError → String
  | .noHost => missing "ldap.host"
  | .noBindName => missing "ldap.bind.dn"
  | .noPassword => unusable "ldap.bind" "a bind dn needs a password"
  | .zeroSearchLimit =>
      unusable "ldap.search_secs" "must be at least one second, or left unset for no limit"
  | .blankQuery lookup part => unusable lookup.field (part.name ++ " must not be empty")
  | .emptyPidFile => unusable "pid_file" "must be a path, or None to disable"
  | .socket text =>
      "Invalid socket specification " ++ Text.quote text ++
        ", expected unix:/path, local:/path, /path or inet:port@host"
  | .logLevel text =>
      "Invalid log level " ++ Text.quote text ++
        ", expected a syslog level name or a number between 0 and 7"
  | .unreadable path reason => "Failed to read " ++ Utf8.lossy path ++ ": " ++ reason
  | .unparsable path => "Failed to parse " ++ Utf8.lossy path

end ConfigError

end ListExpansion
