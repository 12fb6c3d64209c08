/-
# ListExpansion.Proofs.Directory.Query -- queries with an address in them

`Query.Fills` says what a query becomes once an address is put into it: the search whose
base and filter are the texts that the substituted templates encode.  There is one such
search at most (`Query.Fills.unique`), and none when one of the two is no text.

A lookup asks the directory that one search, and asks nothing if there is none
(`lookUp_cases`).
-/
import ListExpansion.Directory.Basic
import ListExpansion.Proofs.Text.Utf8

namespace ListExpansion

set_option autoImplicit false

namespace Query

variable {query : Query} {address : Bytes} {search : Search}

/-- `search` is the query with `address` in its base and its filter. -/
structure Fills (query : Query) (address : Bytes) (search : Search) : Prop where
  base : Bytes.ofText search.base = Template.substitute query.base address
  filter : Bytes.ofText search.filter = Template.substitute query.filter address
  resultAttribute : search.resultAttribute = query.resultAttribute

theorem Fills.unique {other : Search} (one : query.Fills address search)
    (another : query.Fills address other) : search = other := by
  obtain ⟨base, filter, wanted⟩ := search
  obtain ⟨otherBase, otherFilter, otherWanted⟩ := other
  obtain rfl : base = otherBase := Utf8.ofText_injective (one.base.trans another.base.symm)
  obtain rfl : filter = otherFilter := Utf8.ofText_injective (one.filter.trans another.filter.symm)
  obtain rfl : wanted = otherWanted :=
    one.resultAttribute.trans another.resultAttribute.symm
  rfl

theorem fillIn_eq_ok_iff (field : QueryField) (template text : String) :
    fillIn field template address = .ok text ↔
      Bytes.ofText text = Template.substitute template address := by
  rw [← Utf8.decode?_eq_some_iff, fillIn]
  cases Utf8.decode? (Template.substitute template address) <;> simp

theorem searchFor_eq_ok_iff : query.searchFor address = .ok search ↔ query.Fills address search := by
  constructor
  · intro filled
    unfold searchFor at filled
    split at filled
    · cases filled
    · next base readBase =>
        split at filled
        · cases filled
        · next filter readFilter =>
            cases filled
            exact ⟨(fillIn_eq_ok_iff _ _ _).1 readBase, (fillIn_eq_ok_iff _ _ _).1 readFilter, rfl⟩
  · obtain ⟨base, filter, wanted⟩ := search
    rintro ⟨readBase, readFilter, rfl⟩
    simp only [searchFor, (fillIn_eq_ok_iff .base _ _).2 readBase,
      (fillIn_eq_ok_iff .filter _ _).2 readFilter]

/-- What goes wrong is that a field is no text. -/
theorem encoding_of_searchFor {error : DirectoryError} (failed : query.searchFor address = .error error) :
    ∃ field, error = .encoding field := by
  have fillIn_error {field : QueryField} {template : String} {failure : DirectoryError}
      (unread : fillIn field template address = .error failure) : failure = .encoding field := by
    unfold fillIn at unread
    split at unread <;> cases unread
    rfl
  unfold searchFor at failed
  split at failed
  · next unread =>
      cases failed
      exact ⟨_, fillIn_error unread⟩
  · split at failed
    · next unread =>
        cases failed
        exact ⟨_, fillIn_error unread⟩
    · cases failed

end Query

namespace Directory

variable {σ : Type} (directory : Directory σ) (query : Query) (address : Bytes)

theorem lookUp_fills {search : Search} (fills : query.Fills address search) (state : σ) :
    directory.lookUp query address state = directory.search search state := by
  rw [lookUp, Query.searchFor_eq_ok_iff.2 fills]

/-- A query that cannot be filled in fails, and the directory hears nothing of it. -/
theorem lookUp_unfilled (unfilled : ∀ search, ¬ query.Fills address search) (state : σ) :
    ∃ field, directory.lookUp query address state = (⟨.error (.encoding field), []⟩, state) := by
  cases filled : query.searchFor address with
  | ok search => exact absurd (Query.searchFor_eq_ok_iff.1 filled) (unfilled search)
  | error error =>
      obtain ⟨field, rfl⟩ := Query.encoding_of_searchFor filled
      exact ⟨field, by rw [lookUp, filled]⟩

theorem lookUp_cases :
    (∃ search, query.Fills address search ∧
      ∀ state : σ, directory.lookUp query address state = directory.search search state) ∨
    ((∀ search, ¬ query.Fills address search) ∧
      ∀ state : σ, ∃ field,
        directory.lookUp query address state = (⟨.error (.encoding field), []⟩, state)) := by
  by_cases fills : ∃ search, query.Fills address search
  · obtain ⟨search, fills⟩ := fills
    exact .inl ⟨search, fills, lookUp_fills directory query address fills⟩
  · have unfilled := not_exists.1 fills
    exact .inr ⟨unfilled, lookUp_unfilled directory query address unfilled⟩

end Directory

end ListExpansion
