/-
# ListExpansion.Directory.Prepared -- a directory of prepared answers

Answers are prepared by base and filter; the attribute is not looked at.  A
search that nothing was prepared for matches no entry.  Every search is recorded,
oldest first.
-/
import ListExpansion.Directory.Basic

namespace ListExpansion

set_option autoImplicit false

inductive PreparedAnswer where
  | values (values : List Bytes)
  | failure (error : DirectoryError)

structure PreparedDirectory where
  /-- Latest first. -/
  answers : List ((String × String) × PreparedAnswer)
  searches : List Search

namespace PreparedDirectory

def empty : PreparedDirectory := ⟨[], []⟩

/-- A later answer for the same base and filter takes the place of an earlier one. -/
def prepare (directory : PreparedDirectory) (base filter : String) (answer : PreparedAnswer) :
    PreparedDirectory :=
  { directory with answers := ((base, filter), answer) :: directory.answers }

def answerTo (directory : PreparedDirectory) (search : Search) : Reply :=
  match directory.answers.lookup (search.base, search.filter) with
  | some (.values values) =>
      ⟨.ok (values.foldl AddressSet.push (AddressSet.withCapacity values.length)), []⟩
  | some (.failure error) => ⟨.error error, []⟩
  | none =>
      ⟨.ok AddressSet.empty,
        [Event.own .debug s!"No entries under {search.base} match {search.filter}"]⟩

/-- Answers and records. -/
def asDirectory : Directory PreparedDirectory where
  search search directory :=
    (directory.answerTo search, { directory with searches := directory.searches ++ [search] })

end PreparedDirectory

end ListExpansion
