/-
# ListExpansion.Proofs.Host.Walk -- ways through a file system

A walk goes through directories and links only (`Hop` says how it gets on by one segment).
Whoever keeps these (`Keeps`) keeps every way that was open (`walk_kept`).  A walk that got
somewhere found a directory before its last segment (`walk_concat`) and goes on from there
(`walk_append`), so that what a path names and what it leads to are told apart by one more step.
-/
import ListExpansion.Host.FileSystem

namespace ListExpansion

set_option autoImplicit false

/-- A node that a path may lead on from. -/
def Node.leadsOn : Node → Bool
  | .directory _ _ => true
  | .link _ => true
  | _ => false

theorem Node.leadsOn_of_isDirectory {node : Node} (directory : node.isDirectory = true) :
    node.leadsOn = true := by
  cases node with
  | directory mode own => rfl
  | _ => cases directory

namespace FileSystem

variable {files other : FileSystem} {path : Bytes} {place : Place} {node : Node}

/-! ## Places -/

theorem lookup_filter (nodes : List (Place × Node)) (place wanted : Place) :
    (nodes.filter fun entry => decide (entry.1 ≠ place)).lookup wanted =
      if wanted = place then none else nodes.lookup wanted := by
  induction nodes with
  | nil => simp
  | cons entry rest ih =>
      obtain ⟨here, node⟩ := entry
      by_cases gone : here = place
      · rw [List.filter_cons_of_neg (by simp [gone]), ih, List.lookup_cons]
        by_cases hit : wanted = place
        · rw [if_pos hit, if_pos hit]
        · rw [if_neg hit, if_neg hit, beq_eq_false_iff_ne.2 (gone ▸ hit)]
      · rw [List.filter_cons_of_pos (by simp [gone]), List.lookup_cons, List.lookup_cons, ih]
        cases hit : wanted == here with
        | true => exact (if_neg (eq_of_beq hit ▸ gone)).symm
        | false => rfl

theorem lookup_erase (wanted : Place) :
    (files.erase place).lookup wanted = if wanted = place then none else files.lookup wanted :=
  lookup_filter files.nodes place wanted

theorem lookup_put (wanted : Place) :
    (files.put place node).lookup wanted =
      if wanted = place then some node else files.lookup wanted := by
  show ((place, node) :: files.nodes.filter fun entry => decide (entry.1 ≠ place)).lookup wanted = _
  rw [List.lookup_cons, lookup_filter]
  by_cases hit : wanted = place
  · rw [if_pos hit, if_pos hit, beq_iff_eq.2 hit]
  · rw [if_neg hit, if_neg hit, beq_eq_false_iff_ne.2 hit]
    rfl

theorem enterable_eq_ok_iff : files.enterable place = .ok () ↔
    ∃ node, files.lookup place = some node ∧ node.isDirectory = true ∧ node.access.search = true := by
  unfold enterable
  cases files.lookup place with
  | none => simp
  | some node => cases directory : node.isDirectory <;> cases search : node.access.search <;> simp_all

/-! ## Ways that stay open -/

/-- What is in `files` and of a certain kind is in `other` too. -/
structure Keeps (kind : Node → Prop) (files other : FileSystem) : Prop where
  current : other.current = files.current
  node : ∀ {place node}, files.lookup place = some node → kind node → other.lookup place = some node

variable {kind : Node → Prop}

theorem Keeps.refl (kind : Node → Prop) (files : FileSystem) : Keeps kind files files :=
  ⟨rfl, fun there _ => there⟩

theorem Keeps.trans {between : FileSystem} (one : Keeps kind files between)
    (two : Keeps kind between other) : Keeps kind files other :=
  ⟨two.current.trans one.current, fun there of_kind => two.node (one.node there of_kind) of_kind⟩

theorem Keeps.enterable (keeps : Keeps kind files other)
    (ways : ∀ {node : Node}, node.leadsOn = true → kind node)
    (enters : files.enterable place = .ok ()) : other.enterable place = .ok () := by
  obtain ⟨node, there, directory, search⟩ := enterable_eq_ok_iff.1 enters
  exact enterable_eq_ok_iff.2
    ⟨node, keeps.node there (ways (Node.leadsOn_of_isDirectory directory)), directory, search⟩

section Walk

variable {purpose : Purpose} {follow followToo : Place → Bool → List Bytes → Except IoError Spot}
  {here : Place} {closed : Bool} {segment : Bytes} {rest : List Bytes} {spot : Spot}

/-- A segment that stands for an entry of the directory it is looked up in. -/
structure IsName (purpose : Purpose) (closed : Bool) (segment : Bytes) (rest : List Bytes) :
    Prop where
  not_dot : segment ≠ Path.dot
  not_dotDot : segment ≠ Path.dotDot
  not_shut : ¬ (purpose = .writing ∧ closed = true ∧ rest.isEmpty = true)
  short : segment.length ≤ nameLimit

/-- Whoever only looks is not kept out by what comes after the segment. -/
theorem IsName.finding (name : IsName purpose closed segment rest) (closedToo : Bool)
    (restToo : List Bytes) : IsName .finding closedToo segment restToo :=
  ⟨name.not_dot, name.not_dotDot, fun shut => (nomatch shut.1), name.short⟩

variable (files purpose follow here closed segment rest) in
/-- How a walk gets on from `here` by one segment. -/
inductive Hop : Spot → Prop
  | dot {spot : Spot} (is_dot : segment = Path.dot)
      (on : files.walkWith purpose follow here closed rest = .ok spot) : Hop spot
  | dotDot {spot : Spot} (is_dotDot : segment = Path.dotDot)
      (on : files.walkWith purpose follow here.dropLast closed rest = .ok spot) : Hop spot
  | vacant (name : IsName purpose closed segment rest) (last : rest = [])
      (empty : files.lookup (here ++ [segment]) = none) : Hop (.vacant here segment)
  | link {spot : Spot} {target : Bytes} (name : IsName purpose closed segment rest)
      (there : files.lookup (here ++ [segment]) = some (.link target))
      (on : follow (if Path.isAbsolute target then [] else here)
        (closed || (rest.isEmpty && endsWithSlash target)) (segments target ++ rest) = .ok spot) :
      Hop spot
  | node {spot : Spot} {node : Node} (name : IsName purpose closed segment rest)
      (there : files.lookup (here ++ [segment]) = some node) (stays : ∀ target, node ≠ .link target)
      (on : files.walkWith purpose follow (here ++ [segment]) closed rest = .ok spot) : Hop spot

theorem walkWith_cons_eq_ok_iff :
    files.walkWith purpose follow here closed (segment :: rest) = .ok spot ↔
      files.enterable here = .ok () ∧ Hop files purpose follow here closed segment rest spot := by
  constructor
  · intro walks
    unfold walkWith at walks
    split at walks
    · cases walks
    · next enters =>
        refine ⟨enters, ?_⟩
        split at walks
        · next is_dot => exact .dot is_dot walks
        split at walks
        · next is_dotDot => exact .dotDot is_dotDot walks
        split at walks
        · cases walks
        split at walks
        · cases walks
        next not_dot not_dotDot not_shut short =>
          have name : IsName purpose closed segment rest :=
            ⟨not_dot, not_dotDot, not_shut, Nat.le_of_not_lt short⟩
          split at walks
          · next empty =>
              split at walks
              · next last =>
                  cases walks
                  exact .vacant name (List.isEmpty_iff.1 last) empty
              · cases walks
          · next target there => exact .link name there walks
          · next node stays there => exact .node name there stays walks
  · rintro ⟨enters, hop⟩
    unfold walkWith
    rw [enters]
    have past (name : IsName purpose closed segment rest) (spot : Except IoError Spot) :
        (if segment = Path.dot then files.walkWith purpose follow here closed rest
          else if segment = Path.dotDot then files.walkWith purpose follow here.dropLast closed rest
          else if purpose = .writing ∧ closed = true ∧ rest.isEmpty = true then .error .isADirectory
          else if segment.length > nameLimit then .error .nameTooLong
          else spot) = spot := by
      rw [if_neg name.not_dot, if_neg name.not_dotDot, if_neg name.not_shut,
        if_neg (Nat.not_lt.2 name.short)]
    cases hop with
    | dot is_dot on => simpa only [if_pos is_dot] using on
    | dotDot is_dotDot on =>
        subst is_dotDot
        simpa only [show (Path.dotDot = Path.dot) = False by decide, if_false, if_true] using on
    | vacant name last empty =>
        subst last
        exact (past name _).trans (by rw [empty]; rfl)
    | link name there on => exact (past name _).trans (by rw [there]; exact on)
    | @node _ node name there stays on =>
        refine (past name _).trans ?_
        rw [there]
        cases node with
        | link target => exact absurd rfl (stays target)
        | _ => exact on

theorem walkWith_nil_eq_ok_iff :
    files.walkWith purpose follow here closed [] = .ok spot ↔
      ∃ node, files.lookup here = some node ∧ (closed = true → node.isDirectory = true) ∧
        spot = .taken here node := by
  unfold walkWith
  cases there : files.lookup here with
  | none => simp
  | some node =>
      simp only [Option.some.injEq, exists_eq_left']
      by_cases shut : closed = true ∧ ¬ node.isDirectory = true
      · rw [if_pos shut]
        exact ⟨nofun, fun ⟨allowed, _⟩ => absurd (allowed shut.1) shut.2⟩
      · rw [if_neg shut, Except.ok.injEq]
        have allowed (is_closed : closed = true) : node.isDirectory = true :=
          Classical.not_not.1 fun not_directory => shut ⟨is_closed, not_directory⟩
        exact ⟨fun same => ⟨allowed, same.symm⟩, fun ⟨_, same⟩ => same.symm⟩

/-- Where a walk begins there is a directory, or it has come to its end. -/
theorem walkWith_begins {way : List Bytes}
    (walks : files.walkWith purpose follow here closed way = .ok (.taken place node)) :
    ∃ first, files.lookup here = some first ∧ (first.isDirectory = true ∨ first = node) := by
  cases way with
  | nil =>
      obtain ⟨first, there, -, same⟩ := walkWith_nil_eq_ok_iff.1 walks
      cases same
      exact ⟨node, there, .inr rfl⟩
  | cons segment rest =>
      obtain ⟨enters, -⟩ := walkWith_cons_eq_ok_iff.1 walks
      obtain ⟨first, there, directory, -⟩ := enterable_eq_ok_iff.1 enters
      exact ⟨first, there, .inl directory⟩

theorem walkWith_kept (keeps : Keeps kind files other)
    (ways : ∀ {node : Node}, node.leadsOn = true → kind node) (kept : kind node)
    (follows : ∀ {here closed way}, follow here closed way = .ok (.taken place node) →
      followToo here closed way = .ok (.taken place node)) (way : List Bytes)
    (walks : files.walkWith purpose follow here closed way = .ok (.taken place node)) :
    other.walkWith purpose followToo here closed way = .ok (.taken place node) := by
  induction way generalizing here closed with
  | nil =>
      obtain ⟨first, there, allowed, same⟩ := walkWith_nil_eq_ok_iff.1 walks
      cases same
      exact walkWith_nil_eq_ok_iff.2 ⟨node, keeps.node there kept, allowed, rfl⟩
  | cons segment rest ih =>
      obtain ⟨enters, hop⟩ := walkWith_cons_eq_ok_iff.1 walks
      refine walkWith_cons_eq_ok_iff.2 ⟨keeps.enterable ways enters, ?_⟩
      cases hop with
      | dot is_dot on => exact .dot is_dot (ih on)
      | dotDot is_dotDot on => exact .dotDot is_dotDot (ih on)
      | link name there on => exact .link name (keeps.node there (ways rfl)) (follows on)
      | node name there stays on =>
          obtain ⟨first, begins, directory | same⟩ := walkWith_begins on
          · cases there.symm.trans begins
            exact .node name (keeps.node there (ways (Node.leadsOn_of_isDirectory directory))) stays
              (ih on)
          · cases there.symm.trans begins
            subst same
            exact .node name (keeps.node there kept) stays (ih on)

/-- A walk that got somewhere gets there wherever all it went through is kept. -/
theorem walk_kept (keeps : Keeps kind files other)
    (ways : ∀ {node : Node}, node.leadsOn = true → kind node) (kept : kind node) (links : Nat)
    {way : List Bytes} (walks : files.walk purpose links here closed way = .ok (.taken place node)) :
    other.walk purpose links here closed way = .ok (.taken place node) := by
  induction links generalizing here closed way with
  | zero => cases walks
  | succ links ih => exact walkWith_kept keeps ways kept ih way walks

/-- What a walk came to is there. -/
theorem lookup_of_walk {links : Nat} {way : List Bytes}
    (walks : files.walk purpose links here closed way = .ok (.taken place node)) :
    files.lookup place = some node := by
  induction links generalizing here closed way with
  | zero => cases walks
  | succ links ih =>
      rw [walk] at walks
      induction way generalizing here with
      | nil =>
          obtain ⟨first, there, -, same⟩ := walkWith_nil_eq_ok_iff.1 walks
          cases same
          exact there
      | cons segment rest onward =>
          obtain ⟨-, hop⟩ := walkWith_cons_eq_ok_iff.1 walks
          cases hop with
          | dot _ on => exact onward on
          | dotDot _ on => exact onward on
          | link _ _ on => exact ih on
          | node _ _ _ on => exact onward on

/-- A walk that got somewhere found a directory before its last segment. -/
theorem walk_concat {links : Nat} {before : List Bytes} {last : Bytes}
    (walks : files.walk purpose links here closed (before ++ [last]) = .ok spot) (closedToo : Bool) :
    ∃ left place node, files.walk .finding links here closedToo before = .ok (.taken place node) ∧
      files.walk purpose (left + 1) place closed [last] = .ok spot := by
  induction links generalizing here before closedToo with
  | zero => cases walks
  | succ links ih =>
      simp only [walk] at walks ⊢
      induction before generalizing here closedToo with
      | nil =>
          obtain ⟨enters, -⟩ := walkWith_cons_eq_ok_iff.1 walks
          obtain ⟨node, there, directory, -⟩ := enterable_eq_ok_iff.1 enters
          exact ⟨links, here, node, walkWith_nil_eq_ok_iff.2 ⟨node, there, fun _ => directory, rfl⟩,
            walks⟩
      | cons segment rest onward =>
          obtain ⟨enters, hop⟩ := walkWith_cons_eq_ok_iff.1 walks
          cases hop with
          | dot is_dot on =>
              obtain ⟨left, place, node, reaches, goes⟩ := onward on closedToo
              exact ⟨left, place, node, walkWith_cons_eq_ok_iff.2 ⟨enters, .dot is_dot reaches⟩, goes⟩
          | dotDot is_dotDot on =>
              obtain ⟨left, place, node, reaches, goes⟩ := onward on closedToo
              exact ⟨left, place, node,
                walkWith_cons_eq_ok_iff.2 ⟨enters, .dotDot is_dotDot reaches⟩, goes⟩
          | vacant name none_left empty => simp at none_left
          | @link _ target name there on =>
              have onward : files.walk purpose links (if Path.isAbsolute target then [] else here) closed
                  ((segments target ++ rest) ++ [last]) = .ok spot := by
                have more : (rest ++ [last]).isEmpty = false := by simp
                rw [List.append_assoc]
                simpa only [List.append_eq, more, Bool.false_and, Bool.or_false] using on
              obtain ⟨left, place, node, reaches, goes⟩ :=
                ih onward (closedToo || (rest.isEmpty && endsWithSlash target))
              exact ⟨left, place, node,
                walkWith_cons_eq_ok_iff.2 ⟨enters, .link (name.finding closedToo rest) there reaches⟩, goes⟩
          | node name there stays on =>
              obtain ⟨left, place, node, reaches, goes⟩ := onward on closedToo
              exact ⟨left, place, node,
                walkWith_cons_eq_ok_iff.2 ⟨enters, .node (name.finding closedToo rest) there stays reaches⟩, goes⟩

/-- Whoever got as far as a place goes on from there by one segment more. -/
theorem walk_append {links : Nat} {before : List Bytes} {closedToo : Bool}
    (reaches : files.walk .finding links here closedToo before = .ok (.taken place node))
    (last : Bytes) (closed : Bool) :
    ∃ left, ∀ {spot : Spot}, files.walk .finding (left + 1) place closed [last] = .ok spot →
      files.walk .finding links here closed (before ++ [last]) = .ok spot := by
  induction links generalizing here before closedToo with
  | zero => cases reaches
  | succ links ih =>
      simp only [walk] at reaches ⊢
      induction before generalizing here closedToo with
      | nil =>
          obtain ⟨_, -, -, same⟩ := walkWith_nil_eq_ok_iff.1 reaches
          cases same
          exact ⟨links, fun goes => goes⟩
      | cons segment rest onward =>
          obtain ⟨enters, hop⟩ := walkWith_cons_eq_ok_iff.1 reaches
          cases hop with
          | dot is_dot on =>
              obtain ⟨left, joins⟩ := onward on
              exact ⟨left, fun goes => walkWith_cons_eq_ok_iff.2 ⟨enters, .dot is_dot (joins goes)⟩⟩
          | dotDot is_dotDot on =>
              obtain ⟨left, joins⟩ := onward on
              exact ⟨left,
                fun goes => walkWith_cons_eq_ok_iff.2 ⟨enters, .dotDot is_dotDot (joins goes)⟩⟩
          | @link _ target name there on =>
              obtain ⟨left, joins⟩ := ih on
              refine ⟨left, fun goes => walkWith_cons_eq_ok_iff.2
                ⟨enters, .link (name.finding closed (rest ++ [last])) there ?_⟩⟩
              have more : (rest ++ [last]).isEmpty = false := by simp
              simpa only [List.append_eq, more, Bool.false_and, Bool.or_false, List.append_assoc]
                using joins goes
          | node name there stays on =>
              obtain ⟨left, joins⟩ := onward on
              exact ⟨left, fun goes => walkWith_cons_eq_ok_iff.2
                ⟨enters, .node (name.finding closed (rest ++ [last])) there stays (joins goes)⟩⟩

end Walk

end FileSystem

end ListExpansion
