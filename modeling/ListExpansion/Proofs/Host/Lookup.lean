/-
# ListExpansion.Proofs.Host.Lookup -- looking up plain paths

A plain path names an entry of the directory that its parent leads to (`find_parent`).  Once
the parent is found nothing but a refusal keeps the path from being looked up, so a lookup that
fails tells that nothing is there (`absent_of_error`).
-/
import ListExpansion.Proofs.Host.Changes
import ListExpansion.Proofs.Host.Path

namespace ListExpansion.FileSystem

set_option autoImplicit false

open ListExpansion.Path (IsPlain parent?)

variable {files : FileSystem} {path above : Bytes} {place directory : Place} {name : Bytes}
  {node : Node} {error : IoError}

/-! ## Finding -/

theorem isDirectory_eq_true_iff : files.isDirectory path = true ↔
    ∃ place node, files.find path = .ok (place, node) ∧ node.isDirectory = true := by
  unfold isDirectory
  cases found : files.find path with
  | error error => simp
  | ok spot =>
      obtain ⟨place, node⟩ := spot
      simp

theorem exists?_eq_true_iff :
    files.exists? path = .ok true ↔ ∃ place node, files.find path = .ok (place, node) := by
  unfold exists?
  cases found : files.find path with
  | ok spot => exact ⟨fun _ => ⟨spot.1, spot.2, rfl⟩, fun _ => rfl⟩
  | error error => cases error <;> simp

/-- Whoever names a directory gets there. -/
theorem find_of_named {mode : Nat} {own : Bool}
    (named : files.entry path = .ok (.named directory name (some (.directory mode own)))) :
    files.find path = .ok (directory ++ [name], .directory mode own) := by
  have there := lookup_of_named named
  rw [← there] at named
  cases entry_eq_ok_iff.1 named with
  | name valid parted reaches enters is_name =>
      rw [find_eq_ok_iff, parted]
      refine ⟨valid, ?_⟩
      obtain ⟨left, joins⟩ := walk_append reaches name (endsWithSlash path)
      refine joins (walkWith_cons_eq_ok_iff.2
        ⟨enters, .node (is_name.finding (endsWithSlash path) []) there nofun ?_⟩)
      exact walkWith_nil_eq_ok_iff.2 ⟨_, there, fun _ => rfl, rfl⟩

/-! ## The parent of a plain path -/

theorem checkPath_eq_ok_iff :
    checkPath path = .ok () ↔ 0 ∉ path ∧ path ≠ [] ∧ path.length < pathLimit := by
  unfold checkPath
  by_cases nul : 0 ∈ path
  · simp [nul]
  by_cases empty : path = []
  · simp [empty]
  by_cases long : path.length ≥ pathLimit
  · simp [nul, empty, long]
  · simp [nul, empty, long, Nat.lt_of_not_ge long]

/-- A path that can be looked up begins with paths that can be. -/
theorem checkPath_of_begins (begins : above <+: path) (some_ : above ≠ [])
    (valid : checkPath path = .ok ()) : checkPath above = .ok () := by
  obtain ⟨no_nul, -, short⟩ := checkPath_eq_ok_iff.1 valid
  refine checkPath_eq_ok_iff.2 ⟨fun nul => no_nul (begins.mem nul), some_, ?_⟩
  exact Nat.lt_of_le_of_lt begins.length_le short

section Parent

variable (plain : IsPlain path) (up : parent? path = some above)

include plain up

theorem origin_parent : files.origin above = files.origin path := by
  rw [origin, origin, plain.isAbsolute_of_parent up]

theorem walk_of_find (found : files.find above = .ok (place, node)) :
    files.walk .finding (linkLimit + 1) (files.origin path) false (segments above) =
      .ok (.taken place node) := by
  obtain ⟨-, walks⟩ := find_eq_ok_iff.1 found
  rw [origin_parent plain up] at walks
  cases ends : endsWithSlash above with
  | false => rwa [ends] at walks
  | true =>
      rw [plain.open_of_parent up ends] at walks ⊢
      obtain ⟨first, there, -, same⟩ := walkWith_nil_eq_ok_iff.1 walks
      exact walkWith_nil_eq_ok_iff.2 ⟨first, there, nofun, same⟩

theorem find_of_walk (some_ : above ≠ []) (valid : checkPath path = .ok ())
    (reaches : files.walk .finding (linkLimit + 1) (files.origin path) false (segments above) =
      .ok (.taken place node)) (enters : files.enterable place = .ok ()) :
    files.find above = .ok (place, node) ∧ node.isDirectory = true := by
  obtain ⟨first, at_, is_directory, -⟩ := enterable_eq_ok_iff.1 enters
  cases at_.symm.trans (lookup_of_walk reaches)
  refine ⟨find_eq_ok_iff.2 ⟨?_, ?_⟩, is_directory⟩
  · exact checkPath_of_begins (Path.parent?_begins up).1 some_ valid
  · rw [origin_parent plain up]
    cases ends : endsWithSlash above with
    | false => exact reaches
    | true =>
        rw [plain.open_of_parent up ends] at reaches ⊢
        obtain ⟨first, there, -, same⟩ := walkWith_nil_eq_ok_iff.1 reaches
        cases same
        exact walkWith_nil_eq_ok_iff.2 ⟨_, there, fun _ => is_directory, rfl⟩

/-- What a plain path names is in the directory that its parent leads to. -/
theorem find_parent (some_ : above ≠ []) {node? : Option Node}
    (named : files.entry path = .ok (.named directory name node?)) :
    ∃ node, files.find above = .ok (directory, node) ∧ node.isDirectory = true := by
  obtain ⟨last, parted⟩ := plain.segments_of_parent up
  cases entry_eq_ok_iff.1 named with
  | name valid partedToo reaches enters is_name =>
      obtain ⟨same, -⟩ := List.append_inj' (parted.symm.trans partedToo) rfl
      exact ⟨_, find_of_walk plain up some_ valid (same ▸ reaches) enters⟩

end Parent

/-- A plain path has a name unless it has no segments. -/
theorem entry_of_plain (plain : IsPlain path) (some_ : segments path ≠ []) {entry : Entry}
    (found : files.entry path = .ok entry) :
    ∃ directory name, entry = .named directory name (files.lookup (directory ++ [name])) := by
  cases entry_eq_ok_iff.1 found with
  | top valid empty => exact absurd empty some_
  | dot valid parted reaches enters => exact absurd (parted ▸ by simp) plain.no_dot
  | dotDot valid parted reaches enters => exact absurd (parted ▸ by simp) plain.no_dotDot
  | @name before directory _ name valid parted reaches enters is_name => exact ⟨directory, name, rfl⟩

/-- Whoever sees something at a plain path sees what is above it. -/
theorem parent_of_inspect (plain : IsPlain path) (up : parent? path = some above)
    (some_ : above ≠ []) (found : files.inspect path = .ok node) :
    ∃ directory name first, files.entry path = .ok (.named directory name (some node)) ∧
      files.find above = .ok (directory, first) ∧ first.isDirectory = true := by
  obtain ⟨has_name, open_⟩ := plain.named_of_parent up
  obtain ⟨_, unnamed, -⟩ | ⟨directory, name, named⟩ := inspect_of_not_slash open_ found
  · obtain ⟨_, _, same⟩ := entry_of_plain plain has_name unnamed
    cases same
  · obtain ⟨first, found_above, is_directory⟩ := find_parent plain up some_ named
    exact ⟨directory, name, first, named, found_above, is_directory⟩

/-! ## Nothing there -/

/-- Nothing is at `path`: a lookup tells that a name is missing, that what is on the way is no
directory, or that no name is like this; or the parent leads to a directory that is empty. -/
def Absent (files : FileSystem) (path : Bytes) : Prop :=
  (∃ error ∈ [IoError.notFound, .notADirectory, .nameTooLong, .nulInFileName],
    files.inspect path = .error error) ∨
  ∃ above directory node, parent? path = some above ∧ files.find above = .ok (directory, node) ∧
    ∀ name, files.lookup (directory ++ [name]) = none

theorem checkPath_error (failed : checkPath path = .error error) :
    error = .notFound ∧ path = [] ∨ error = .nameTooLong ∨ error = .nulInFileName := by
  unfold checkPath at failed
  split at failed
  · cases failed
    exact .inr (.inr rfl)
  split at failed
  · next empty =>
      cases failed
      exact .inl ⟨rfl, List.isEmpty_iff.1 empty⟩
  split at failed
  · cases failed
    exact .inr (.inl rfl)
  · cases failed

theorem enterable_error (failed : files.enterable place = .error error) :
    error = .notFound ∧ files.lookup place = none ∨ error = .notADirectory ∨
      error = .accessDenied := by
  unfold enterable at failed
  split at failed
  · split at failed
    · split at failed
      · cases failed
      · cases failed
        exact .inr (.inr rfl)
    · cases failed
      exact .inr (.inl rfl)
  · next empty =>
      cases failed
      exact .inl ⟨rfl, empty⟩

/-- Why an entry is not told. -/
theorem entry_error {before : List Bytes} (parted : segments path = before ++ [name])
    (failed : files.entry path = .error error) :
    checkPath path = .error error ∨
      files.walk .finding (linkLimit + 1) (files.origin path) false before = .error error ∨
      (∃ place node, files.walk .finding (linkLimit + 1) (files.origin path) false before =
        .ok (.taken place node) ∧ files.enterable place = .error error) ∨
      (∃ directory last, files.walk .finding (linkLimit + 1) (files.origin path) false before =
        .ok (.vacant directory last) ∧ error = .notFound) ∨
      error = .nameTooLong := by
  unfold entry at failed
  split at failed
  · next invalid =>
      cases failed
      exact .inl invalid
  · have backwards : (segments path).reverse = name :: before.reverse := by simp [parted]
    simp only [backwards, List.reverse_reverse] at failed
    split at failed
    · next lost =>
        cases failed
        exact .inr (.inl lost)
    · next missing =>
        cases failed
        exact .inr (.inr (.inr (.inl ⟨_, _, missing, rfl⟩)))
    · next reaches =>
        split at failed
        · next shut =>
            cases failed
            exact .inr (.inr (.inl ⟨_, _, reaches, shut⟩))
        split at failed
        · cases failed
        split at failed
        · cases failed
        split at failed
        · cases failed
          exact .inr (.inr (.inr (.inr rfl)))
        · cases failed

theorem inspect_error (open_ : endsWithSlash path = false)
    (failed : files.inspect path = .error error) :
    files.entry path = .error error ∨ error = .notFound := by
  unfold inspect at failed
  simp only [open_, Bool.false_eq_true, if_false] at failed
  split at failed
  · next failed_entry =>
      cases failed
      exact .inl failed_entry
  · split at failed
    · cases failed
    · cases failed
      exact .inr rfl
  · cases failed
    exact .inr rfl
  · cases failed

/-- A walk that ends before it begins fails only where nothing is, or no directory. -/
theorem walk_nil_error {links : Nat} {closed : Bool}
    (failed : files.walk .finding (links + 1) place closed [] = .error error) :
    error = .notFound ∨ error = .notADirectory := by
  rw [walk, walkWith] at failed
  split at failed
  · cases failed
    exact .inl rfl
  · split at failed
    · cases failed
      exact .inr rfl
    · cases failed

/-- The root and the empty path, which are not in any directory. -/
theorem inspect_nil_error (none_ : segments path = []) (failed : files.inspect path = .error error) :
    checkPath path = .error error ∨ error = .notFound ∨ error = .notADirectory := by
  cases ends : endsWithSlash path with
  | false =>
      rcases inspect_error ends failed with failed_entry | rfl
      · unfold entry at failed_entry
        split at failed_entry
        · next invalid =>
            cases failed_entry
            exact .inl invalid
        · rw [none_] at failed_entry
          cases failed_entry
      · exact .inr (.inl rfl)
  | true =>
      rw [inspect, if_pos ends, find, locate, none_] at failed
      cases valid : checkPath path with
      | error invalid =>
          rw [valid] at failed
          exact .inl (by cases failed; rfl)
      | ok done =>
          simp only [valid] at failed
          cases walks : files.walk .finding (linkLimit + 1) (files.origin path)
            (endsWithSlash path) [] with
          | error lost =>
              rw [walks] at failed
              cases failed
              exact .inr (walk_nil_error walks)
          | ok spot =>
              obtain ⟨_, -, -, rfl⟩ := walkWith_nil_eq_ok_iff.1 walks
              rw [walks] at failed
              cases failed

/-- Where the parent is found, nothing but a refusal keeps a plain path from being looked up,
so what is not found there is not there. -/
theorem absent_of_error (plain : IsPlain path)
    (found : ∀ above, parent? path = some above → above ≠ [] →
      ∃ place node, files.find above = .ok (place, node))
    (failed : files.inspect path = .error error) (allowed : error ≠ .accessDenied) :
    files.Absent path := by
  have invalid (not_valid : checkPath path = .error error) : files.Absent path := by
    refine .inl ⟨error, ?_, failed⟩
    rcases checkPath_error not_valid with ⟨rfl, -⟩ | rfl | rfl <;> decide
  have absent (reason : error = .notFound ∨ error = .notADirectory ∨ error = .nameTooLong) :
      files.Absent path := by
    refine .inl ⟨error, ?_, failed⟩
    rcases reason with rfl | rfl | rfl <;> decide
  rcases List.eq_nil_or_concat (segments path) with none_ | ⟨before, name, parted⟩
  · rcases inspect_nil_error none_ failed with not_valid | rfl | rfl
    · exact invalid not_valid
    · exact absent (.inl rfl)
    · exact absent (.inr (.inl rfl))
  · rw [List.concat_eq_append] at parted
    obtain ⟨above, up⟩ := Path.exists_parent? plain (by simp [parted])
    rcases inspect_error (plain.named_of_parent up).2 failed with failed_entry | rfl
    · rcases entry_error parted failed_entry with not_valid | lost | ⟨place, node, reaches, shut⟩ |
        ⟨-, -, -, rfl⟩ | rfl
      · exact invalid not_valid
      · obtain ⟨last, partedToo⟩ := plain.segments_of_parent up
        obtain ⟨same, -⟩ := List.append_inj' (partedToo.symm.trans parted) rfl
        by_cases here : above = []
        · subst here
          rw [← same] at lost
          exact absent ((walk_nil_error lost).imp_right .inl)
        · obtain ⟨place, node, there⟩ := found above up here
          cases (same ▸ walk_of_find plain up there).symm.trans lost
      · rcases enterable_error shut with ⟨rfl, -⟩ | rfl | rfl
        · exact absent (.inl rfl)
        · exact absent (.inr (.inl rfl))
        · exact absurd rfl allowed
      · exact absent (.inl rfl)
      · exact absent (.inr (.inr rfl))
    · exact absent (.inl rfl)

/-- Nothing is missing above what is in a directory that was found. -/
theorem entry_ne_notFound (plain : IsPlain path) (up : parent? path = some above)
    (found : files.find above = .ok (place, node)) : files.entry path ≠ .error .notFound := by
  intro missing
  obtain ⟨last, parted⟩ := plain.segments_of_parent up
  have reaches := walk_of_find plain up found
  rcases entry_error parted missing with invalid | lost | ⟨there, _, reachesToo, shut⟩ |
    ⟨_, _, vacant, -⟩ | other
  · rcases checkPath_error invalid with ⟨-, rfl⟩ | other | other
    · cases up
    · cases other
    · cases other
  · cases reaches.symm.trans lost
  · cases reaches.symm.trans reachesToo
    rcases enterable_error shut with ⟨-, empty⟩ | other | other
    · cases empty.symm.trans (lookup_of_find found)
    · cases other
    · cases other
  · cases reaches.symm.trans vacant
  · cases other

end ListExpansion.FileSystem
