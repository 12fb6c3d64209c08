/-
# ListExpansion.Directory.Basic -- what a directory is

A directory answers searches and may change by answering (it records, it loses
its connection).  The answer is a set of addresses or an error, with the events
that the directory itself logged.
-/
import ListExpansion.Directory.Query
import ListExpansion.Log

namespace ListExpansion

set_option autoImplicit false

structure Reply where
  outcome : Except DirectoryError AddressSet
  events : List Event

/-- A directory with states `σ`. -/
structure Directory (σ : Type) where
  search : Search → σ → Reply × σ

namespace Directory

variable {σ : Type}

/-- Looks `address` up by `query`.  A query that cannot be filled in never reaches
the directory. -/
def lookUp (directory : Directory σ) (query : Query) (address : Bytes) (state : σ) : Reply × σ :=
  match query.searchFor address with
  | .error failure => (⟨.error failure, []⟩, state)
  | .ok search => directory.search search state

end Directory

end ListExpansion
