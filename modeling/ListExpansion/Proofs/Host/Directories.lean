/-
# ListExpansion.Proofs.Host.Directories -- making the directories above a path

Making a tree of directories goes up to the first that is there and down again (`Making`; the
fuel never runs out, `makeTree_making`).  It keeps all there was and adds directories of ours
where the path or one above it leads (`makeTree_built`).

Files in which whatever has a name is in a directory (`Rooted`) stay so, and a tree that was
made is empty at its end, unless it was there before (`makeTree_ok`).
-/
import ListExpansion.Proofs.Host.Lookup

namespace ListExpansion.FileSystem

set_option autoImplicit false

open ListExpansion.Path (IsPlain Above parent?)

variable {files between after : FileSystem} {path above : Bytes} {place directory : Place}
  {name : Bytes} {node : Node} {error : IoError} {umask : Nat}

/-! ## Making directories -/

variable (files umask) in
/-- The courses that making a tree of directories can take. -/
inductive Making : Bytes → Except IoError Unit × FileSystem → Prop
  | nothing : Making [] (.ok (), files)
  | made {after : FileSystem} {path : Bytes} (some_ : path ≠ [])
      (makes : files.makeDirectory umask path = .ok after) : Making path (.ok (), after)
  | refused {path : Bytes} {error : IoError} (some_ : path ≠ [])
      (fails : files.makeDirectory umask path = .error error) (not_missing : error ≠ .notFound) :
      Making path (files.settled path error, files)
  | orphan {path : Bytes} (some_ : path ≠ [])
      (missing : files.makeDirectory umask path = .error .notFound) (up : parent? path = none) :
      Making path (.error .noParent, files)
  | stuck {between : FileSystem} {path above : Bytes} {error : IoError} (some_ : path ≠ [])
      (missing : files.makeDirectory umask path = .error .notFound) (up : parent? path = some above)
      (climbs : Making above (.error error, between)) : Making path (.error error, between)
  | further {between after : FileSystem} {path above : Bytes} (some_ : path ≠ [])
      (missing : files.makeDirectory umask path = .error .notFound) (up : parent? path = some above)
      (climbs : Making above (.ok (), between))
      (makes : between.makeDirectory umask path = .ok after) : Making path (.ok (), after)
  | settled {between : FileSystem} {path above : Bytes} {error : IoError} (some_ : path ≠ [])
      (missing : files.makeDirectory umask path = .error .notFound) (up : parent? path = some above)
      (climbs : Making above (.ok (), between))
      (fails : between.makeDirectory umask path = .error error) :
      Making path (between.settled path error, between)

theorem makeDirectories_making (umask : Nat) {fuel : Nat} (files : FileSystem) {path : Bytes}
    (enough : path.length < fuel) :
    Making files umask path (files.makeDirectories umask fuel path) := by
  induction fuel generalizing files path with
  | zero => exact absurd enough (Nat.not_lt_zero _)
  | succ fuel ih =>
      unfold makeDirectories
      split
      · next empty => exact List.isEmpty_iff.1 empty ▸ .nothing
      next not_empty =>
        have some_ : path ≠ [] := fun empty => not_empty (List.isEmpty_iff.2 empty)
        split
        · next makes => exact .made some_ makes
        · next missing =>
            split
            · next up => exact .orphan some_ missing up
            next above up =>
              have climbs := ih files
                (Nat.lt_of_lt_of_le (Path.parent?_begins up).2 (Nat.le_of_lt_succ enough))
              split
              · next failed => exact .stuck some_ missing up (failed ▸ climbs)
              · next reached =>
                  rw [reached] at climbs
                  split
                  · next makes => exact .further some_ missing up climbs makes
                  · next fails => exact .settled some_ missing up climbs fails
        · next not_missing fails => exact .refused some_ fails not_missing

/-- The fuel never runs out: every parent is shorter than what it is the parent of. -/
theorem makeTree_making (files : FileSystem) (umask : Nat) (path : Bytes) :
    Making files umask path (files.makeTree umask path) :=
  makeDirectories_making umask files (Nat.lt_succ_self _)

/-- A mask takes nothing but permission bits, and a group's bit is none of them. -/
theorem directoryMode_mod (umask : Nat) (parent : Option Node) :
    directoryMode umask parent % 0o1000 = masked umask 0o755 := by
  have below : masked umask 0o755 < 0o1000 := by
    refine Nat.xor_lt_two_pow (n := 9) (by decide) ?_
    exact Nat.lt_of_le_of_lt Nat.and_le_left (by decide)
  unfold directoryMode
  split
  · split
    · unfold groupBit
      omega
    · omega
  · exact Nat.mod_eq_of_lt below

theorem makeDirectory_ok (made : files.makeDirectory umask path = .ok after) :
    ∃ directory name, files.entry path = .ok (.named directory name none) ∧
      after = files.put (directory ++ [name])
        (.directory (directoryMode umask (files.lookup directory)) true) := by
  unfold makeDirectory at made
  split at made
  · cases made
  · cases made
  · cases made
  · next directory name named =>
      split at made
      · cases made
        exact ⟨directory, name, named, rfl⟩
      · cases made

theorem makeDirectory_notFound (missing : files.makeDirectory umask path = .error .notFound) :
    files.entry path = .error .notFound := by
  unfold makeDirectory at missing
  split at missing
  · next failed =>
      cases missing
      exact failed
  · cases missing
  · cases missing
  · split at missing <;> cases missing

theorem keeps_put (empty : files.lookup place = none) (node : Node) :
    Keeps (fun _ => True) files (files.put place node) where
  current := rfl
  node := by
    intro wanted found there _
    rw [lookup_put, if_neg]
    · exact there
    · rintro rfl
      cases empty.symm.trans there

/-- A directory that was made is ours, was not there before and is found now. -/
theorem makeDirectory_found (made : files.makeDirectory umask path = .ok after) :
    ∃ place mode, files.lookup place = none ∧ after = files.put place (.directory mode true) ∧
      after.find path = .ok (place, .directory mode true) ∧
      mode % 0o1000 = masked umask 0o755 := by
  obtain ⟨directory, name, named, rfl⟩ := makeDirectory_ok made
  have empty := lookup_of_named named
  refine ⟨directory ++ [name], _, empty, rfl, find_of_named ?_,
    directoryMode_mod umask (files.lookup directory)⟩
  rw [named_kept (keeps_put empty _) (fun _ => trivial) named, lookup_put, if_pos rfl]

/-- All there was is kept; what is new are directories of ours, where `path` leads or one
above it, and their mode is 0755 less the mask. -/
structure Built (umask : Nat) (path : Bytes) (before after : FileSystem) : Prop where
  keeps : Keeps (fun _ => True) before after
  made : ∀ {place node}, before.lookup place = none → after.lookup place = some node →
    ∃ above mode, (above = path ∨ Above path above) ∧
      after.find above = .ok (place, .directory mode true) ∧ mode % 0o1000 = masked umask 0o755

namespace Built

theorem refl (umask : Nat) (path : Bytes) (files : FileSystem) : Built umask path files files :=
  ⟨.refl _ files, fun empty there => nomatch empty.symm.trans there⟩

theorem trans (one : Built umask path files between) (two : Built umask path between after) :
    Built umask path files after where
  keeps := one.keeps.trans two.keeps
  made := by
    intro place node empty there
    cases half : between.lookup place with
    | none => exact two.made half there
    | some node =>
        obtain ⟨above, mode, comes, found, mode_eq⟩ := one.made empty half
        exact ⟨above, mode, comes, find_kept two.keeps (fun _ => trivial) trivial found, mode_eq⟩

theorem climb (up : parent? path = some above) (built : Built umask above files after) :
    Built umask path files after where
  keeps := built.keeps
  made := by
    intro place node empty there
    obtain ⟨further, mode, comes, found, mode_eq⟩ := built.made empty there
    refine ⟨further, mode, .inr ?_, found, mode_eq⟩
    rcases comes with rfl | comes
    · exact .parent up (ne_nil_of_find found)
    · exact .of_parent up comes

theorem of_makeDirectory (made : files.makeDirectory umask path = .ok after) :
    Built umask path files after := by
  obtain ⟨here, mode, vacant, rfl, found, mode_eq⟩ := makeDirectory_found made
  refine ⟨keeps_put vacant _, fun {place node} empty there => ?_⟩
  rw [lookup_put] at there
  split at there
  · next same => exact ⟨path, mode, .inl rfl, same ▸ found, mode_eq⟩
  · cases empty.symm.trans there

theorem of_making {outcome : Except IoError Unit × FileSystem}
    (making : Making files umask path outcome) : Built umask path files outcome.2 := by
  induction making with
  | nothing => exact .refl umask [] _
  | made _ makes => exact .of_makeDirectory makes
  | refused => exact .refl umask _ _
  | orphan => exact .refl umask _ _
  | stuck _ _ up _ ih => exact ih.climb up
  | further _ _ up _ makes ih => exact (ih.climb up).trans (.of_makeDirectory makes)
  | settled _ _ up _ _ ih => exact ih.climb up

end Built

theorem makeTree_built (files : FileSystem) (umask : Nat) (path : Bytes) :
    Built umask path files (files.makeTree umask path).2 :=
  .of_making (makeTree_making files umask path)

/-! ## Trees -/

/-- Whatever has a name is in a directory. -/
def Rooted (files : FileSystem) : Prop :=
  ∀ ⦃directory name node⦄, files.lookup (directory ++ [name]) = some node →
    ∃ mode own, files.lookup directory = some (.directory mode own)

/-- Whether files are a tree is told by what is there. -/
theorem rooted_of_nodes (checked : ∀ entry ∈ files.nodes,
    entry.1 = [] ∨ (files.lookup entry.1.dropLast).any Node.isDirectory = true) : files.Rooted := by
  intro directory name node there
  obtain ⟨before, _, nodes_eq, -⟩ := List.lookup_eq_some_iff.1 there
  have member : (directory ++ [name], node) ∈ files.nodes :=
    nodes_eq ▸ List.mem_append_right _ List.mem_cons_self
  rcases checked _ member with root | above
  · exact absurd root (List.concat_ne_nil name directory)
  · rw [List.dropLast_concat] at above
    obtain ⟨first, at_, is_directory⟩ := (Option.any_eq_true _ _).1 above
    cases first with
    | directory mode own => exact ⟨mode, own, at_⟩
    | _ => cases is_directory

/-- Nothing is below a place where no directory is. -/
theorem Rooted.empty_below (rooted : files.Rooted)
    (none_ : ∀ mode own, files.lookup directory ≠ some (.directory mode own)) (name : Bytes) :
    files.lookup (directory ++ [name]) = none := by
  cases there : files.lookup (directory ++ [name]) with
  | none => rfl
  | some node =>
      obtain ⟨mode, own, at_⟩ := rooted there
      exact absurd at_ (none_ mode own)

theorem directory_of_named {node? : Option Node}
    (named : files.entry path = .ok (.named directory name node?)) :
    ∃ mode own, files.lookup directory = some (.directory mode own) := by
  cases entry_eq_ok_iff.1 named with
  | name valid parted reaches enters is_name =>
      obtain ⟨first, there, is_directory, -⟩ := enterable_eq_ok_iff.1 enters
      cases first with
      | directory mode own => exact ⟨mode, own, there⟩
      | _ => cases is_directory

theorem Rooted.of_makeDirectory (rooted : files.Rooted)
    (made : files.makeDirectory umask path = .ok after) : after.Rooted := by
  obtain ⟨here, last, named, rfl⟩ := makeDirectory_ok made
  have keeps := keeps_put (lookup_of_named named)
    (.directory (directoryMode umask (files.lookup here)) true)
  intro directory name node there
  have above : ∃ mode own, files.lookup directory = some (.directory mode own) := by
    rw [lookup_put] at there
    split at there
    · next same =>
        obtain ⟨rfl, -⟩ := List.append_inj' same rfl
        exact directory_of_named named
    · exact rooted there
  obtain ⟨mode, own, at_⟩ := above
  exact ⟨mode, own, keeps.node at_ trivial⟩

theorem Rooted.of_making {outcome : Except IoError Unit × FileSystem} (rooted : files.Rooted)
    (making : Making files umask path outcome) : outcome.2.Rooted := by
  induction making with
  | nothing => exact rooted
  | made _ makes => exact rooted.of_makeDirectory makes
  | refused => exact rooted
  | orphan => exact rooted
  | stuck _ _ _ _ ih => exact ih
  | further _ _ _ _ makes ih => exact Rooted.of_makeDirectory ih makes
  | settled _ _ _ _ _ ih => exact ih

/-- What goes without being a directory has nothing below it. -/
theorem Rooted.erase (rooted : files.Rooted) (there : files.lookup place = some node)
    (no_directory : node.isDirectory = false) : (files.erase place).Rooted := by
  intro directory name other at_
  obtain ⟨mode, own, above⟩ := rooted ((keeps_erase files place).node at_ trivial)
  refine ⟨mode, own, ?_⟩
  rw [lookup_erase, if_neg]
  · exact above
  · rintro rfl
    cases there.symm.trans above
    cases no_directory

/-- A directory just made is empty. -/
theorem makeDirectory_empty (rooted : files.Rooted)
    (made : files.makeDirectory umask path = .ok after) :
    ∃ place node, after.find path = .ok (place, node) ∧ node.isDirectory = true ∧
      ∀ name, after.lookup (place ++ [name]) = none := by
  obtain ⟨place, mode, empty, rfl, found, -⟩ := makeDirectory_found made
  refine ⟨place, _, found, rfl, fun name => ?_⟩
  rw [lookup_put, if_neg (by simp)]
  exact rooted.empty_below (fun mode own there => nomatch empty.symm.trans there) name

theorem settled_ok (settled : files.settled path error = .ok ()) :
    ∃ place node, files.find path = .ok (place, node) ∧ node.isDirectory = true := by
  unfold FileSystem.settled at settled
  split at settled
  · next is_directory => exact isDirectory_eq_true_iff.1 is_directory
  · cases settled

/-- Nothing is found in a directory that is empty. -/
theorem find_ne_of_empty (plain : IsPlain path) (up : parent? path = some above) (some_ : above ≠ [])
    (found_above : files.find above = .ok (directory, node))
    (empty : ∀ name, files.lookup (directory ++ [name]) = none) (place : Place) (there : Node) :
    files.find path ≠ .ok (place, there) := by
  intro found
  have located : files.locate .finding path = .ok (.taken place there) := by
    obtain ⟨valid, walks⟩ := find_eq_ok_iff.1 found
    rw [locate, valid]
    exact walks
  obtain ⟨_, _, unnamed, -⟩ | ⟨here, name, named, -, seen⟩ := locate_ok located
  · obtain ⟨_, _, named⟩ := entry_of_plain plain (plain.named_of_parent up).1 unnamed
    cases named
  · obtain ⟨_, found_here, -⟩ := find_parent plain up some_ named
    cases found_above.symm.trans found_here
    rw [empty name] at seen
    rcases seen with ⟨-, vacant⟩ | ⟨target, link⟩ | ⟨_, taken, -⟩
    · cases vacant
    · cases link
    · cases taken

/-- A tree whose making succeeded is there; it is empty, or was found before. -/
theorem found_of_making (rooted : files.Rooted) (plain : IsPlain path) (some_ : path ≠ [])
    (making : Making files umask path (.ok (), after)) :
    ∃ place node, after.find path = .ok (place, node) ∧ node.isDirectory = true ∧
      (files.find path = .ok (place, node) ∨ ∀ name, after.lookup (place ++ [name]) = none) := by
  generalize outcome_eq : (Except.ok (), after) = outcome at making
  induction making generalizing after with
  | nothing => exact absurd rfl some_
  | made _ makes =>
      cases outcome_eq
      obtain ⟨place, node, found, is_directory, empty⟩ := makeDirectory_empty rooted makes
      exact ⟨place, node, found, is_directory, .inr empty⟩
  | refused =>
      obtain ⟨settled, rfl⟩ := Prod.mk.inj outcome_eq
      obtain ⟨place, node, found, is_directory⟩ := settled_ok settled.symm
      exact ⟨place, node, found, is_directory, .inl found⟩
  | orphan => cases outcome_eq
  | stuck => cases outcome_eq
  | further _ _ _ climbs makes =>
      cases outcome_eq
      obtain ⟨place, node, found, is_directory, empty⟩ :=
        makeDirectory_empty (rooted.of_making climbs) makes
      exact ⟨place, node, found, is_directory, .inr empty⟩
  | @settled between path above error _ missing up climbs _ ih =>
      obtain ⟨settled, rfl⟩ := Prod.mk.inj outcome_eq
      obtain ⟨place, node, found, is_directory⟩ := settled_ok settled.symm
      refine ⟨place, node, found, is_directory, ?_⟩
      by_cases here : above = []
      · subst here
        cases climbs with
        | nothing => exact .inl found
        | made no => exact absurd rfl no
        | further no => exact absurd rfl no
      · -- The parent was found before, so the path would not have been missing; or it is new,
        -- and then the path is not found in it.
        obtain ⟨directory, _, found_above, -, before | empty⟩ :=
          ih (Path.parent?_plain plain up) here rfl
        · exact absurd (makeDirectory_notFound missing) (entry_ne_notFound plain up before)
        · exact absurd found (find_ne_of_empty plain up here found_above empty place node)

/-- A tree whose making succeeded is there; it is empty, or was found before. -/
theorem makeTree_ok (rooted : files.Rooted) (plain : IsPlain path) (some_ : path ≠ [])
    (made : files.makeTree umask path = (.ok (), after)) :
    ∃ place node, after.find path = .ok (place, node) ∧ node.isDirectory = true ∧
      (files.find path = .ok (place, node) ∨ ∀ name, after.lookup (place ++ [name]) = none) :=
  found_of_making rooted plain some_ (made ▸ makeTree_making files umask path)

/-- Making a tree keeps the files a tree, however far it comes. -/
theorem Rooted.makeTree (rooted : files.Rooted) (umask : Nat) (path : Bytes) :
    (files.makeTree umask path).2.Rooted :=
  rooted.of_making (makeTree_making files umask path)

end ListExpansion.FileSystem
