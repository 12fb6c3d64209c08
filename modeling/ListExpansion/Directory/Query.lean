/-
# ListExpansion.Directory.Query -- from an address to a search

A query is a search with placeholders in its base and filter.  Filling it in
fails when what results is not text; the base is looked at first.
-/
import ListExpansion.Directory.Error
import ListExpansion.Template

namespace ListExpansion

set_option autoImplicit false

/-- Where to search, what to match and which attribute to return. -/
structure Query where
  base : String
  filter : String
  resultAttribute : String
  deriving DecidableEq, Repr

/-- A search as it reaches the directory. -/
structure Search where
  base : String
  filter : String
  resultAttribute : String
  deriving DecidableEq, Repr

/-- One field of a query with `address` in it. -/
def fillIn (field : QueryField) (template : String) (address : Bytes) :
    Except DirectoryError String :=
  match Utf8.decode? (Template.substitute template address) with
  | some text => .ok text
  | none => .error (.encoding field)

/-- The search for `address`; the attribute is taken as it is. -/
def Query.searchFor (query : Query) (address : Bytes) : Except DirectoryError Search :=
  match fillIn .base query.base address with
  | .error failure => .error failure
  | .ok base =>
      match fillIn .filter query.filter address with
      | .error failure => .error failure
      | .ok filter => .ok ⟨base, filter, query.resultAttribute⟩

end ListExpansion
