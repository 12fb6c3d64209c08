/-
# ListExpansion.Proofs.Host.Path -- paths and those above them

Cutting a path at its slashes and joining the pieces undo each other (`joined_split`,
`split_joined`).  So a parent begins its path and is shorter (`parent?_begins`), and the
segments of a path without `.` and `..` are those of its parent and one name more
(`IsPlain.segments_of_parent`).  What comes above a path is found by going from parent to parent
(`Path.Above`).
-/
import ListExpansion.Host.FileSystem
import Mathlib.Data.List.DropRight

namespace ListExpansion

set_option autoImplicit false

namespace Bytes

variable {separator : UInt8}

theorem split_ne_nil (octets : Bytes) : split separator octets ≠ [] := by
  cases octets with
  | nil => simp [split]
  | cons b rest =>
      rw [split]
      split
      · exact List.cons_ne_nil _ _
      · split <;> exact List.cons_ne_nil _ _

/-- An octet that is no separator goes to the first piece. -/
theorem split_cons {b : UInt8} (other : b ≠ separator) (rest : Bytes) :
    ∃ piece pieces, split separator rest = piece :: pieces ∧
      split separator (b :: rest) = (b :: piece) :: pieces := by
  obtain ⟨piece, pieces, cut⟩ : ∃ piece pieces, split separator rest = piece :: pieces :=
    List.exists_cons_of_ne_nil (split_ne_nil rest)
  refine ⟨piece, pieces, cut, ?_⟩
  rw [split, if_neg other, cut]

/-- No piece has a separator in it. -/
theorem split_free (octets : Bytes) : ∀ piece ∈ split separator octets, separator ∉ piece := by
  induction octets with
  | nil => simp [split]
  | cons b rest ih =>
      by_cases here : b = separator
      · rw [split, if_pos here]
        intro piece member
        rcases List.mem_cons.1 member with rfl | member
        · exact List.not_mem_nil
        · exact ih piece member
      · obtain ⟨first, pieces, cut, more⟩ := split_cons here rest
        rw [more]
        rw [cut] at ih
        intro piece member
        rcases List.mem_cons.1 member with rfl | member
        · exact List.not_mem_cons_of_ne_of_not_mem (Ne.symm here) (ih first List.mem_cons_self)
        · exact ih piece (List.mem_cons_of_mem _ member)

theorem split_of_free {piece : Bytes} (free : separator ∉ piece) :
    split separator piece = [piece] := by
  induction piece with
  | nil => rfl
  | cons b rest ih =>
      obtain ⟨other, free⟩ := List.ne_and_not_mem_of_not_mem_cons free
      rw [split, if_neg (Ne.symm other), ih free]

theorem split_append {piece : Bytes} (free : separator ∉ piece) (rest : Bytes) :
    split separator (piece ++ separator :: rest) = piece :: split separator rest := by
  induction piece with
  | nil => rw [List.nil_append, split, if_pos rfl]
  | cons b piece ih =>
      obtain ⟨other, free⟩ := List.ne_and_not_mem_of_not_mem_cons free
      rw [List.cons_append, split, if_neg (Ne.symm other), ih free]

end Bytes

namespace Path

/-! ## Joining -/

theorem joined_cons {pieces : List Bytes} (piece : Bytes) (more : pieces ≠ []) :
    joined (piece :: pieces) = piece ++ slash :: joined pieces := by
  cases pieces with
  | nil => exact absurd rfl more
  | cons second rest => rfl

theorem joined_concat {pieces : List Bytes} (some_ : pieces ≠ []) (last : Bytes) :
    joined (pieces ++ [last]) = joined pieces ++ slash :: last := by
  induction pieces with
  | nil => exact absurd rfl some_
  | cons piece rest ih =>
      cases rest with
      | nil => rfl
      | cons second more =>
          rw [List.cons_append, joined_cons piece (by simp), ih (List.cons_ne_nil _ _),
            joined_cons piece (List.cons_ne_nil _ _), List.append_assoc]
          rfl

theorem joined_split (path : Bytes) : joined (Bytes.split slash path) = path := by
  induction path with
  | nil => rfl
  | cons b rest ih =>
      by_cases here : b = slash
      · rw [Bytes.split, if_pos here, joined_cons _ (Bytes.split_ne_nil rest), ih, here]
        rfl
      · obtain ⟨piece, pieces, cut, more⟩ := Bytes.split_cons here rest
        rw [cut] at ih
        rw [more, ← ih]
        cases pieces with
        | nil => rfl
        | cons second others => rfl

theorem split_joined {pieces : List Bytes} (some_ : pieces ≠ [])
    (free : ∀ piece ∈ pieces, slash ∉ piece) : Bytes.split slash (joined pieces) = pieces := by
  induction pieces with
  | nil => exact absurd rfl some_
  | cons piece rest ih =>
      have here : slash ∉ piece := free piece List.mem_cons_self
      by_cases last : rest = []
      · subst last
        exact Bytes.split_of_free here
      · rw [joined_cons piece last, Bytes.split_append here,
          ih last fun other member => free other (List.mem_cons_of_mem _ member)]

theorem joined_begins (pieces more : List Bytes) : joined pieces <+: joined (pieces ++ more) := by
  induction pieces with
  | nil => exact List.nil_prefix
  | cons piece rest ih =>
      cases rest with
      | nil =>
          cases more with
          | nil => exact List.prefix_rfl
          | cons second others => exact List.prefix_append _ _
      | cons second others =>
          rw [List.cons_append, joined_cons piece (List.cons_ne_nil _ _), joined_cons piece (by simp)]
          exact (List.prefix_append_right_inj _).2 ((List.cons_prefix_cons).2 ⟨rfl, ih⟩)

/-- One piece more makes a path longer, unless it is empty. -/
theorem length_joined_concat {name : Bytes} (some_ : name ≠ []) (pieces : List Bytes) :
    (joined pieces).length < (joined (pieces ++ [name])).length := by
  have some_octet := List.length_pos_iff.2 some_
  by_cases none_ : pieces = []
  · simpa [none_, joined] using some_octet
  · rw [joined_concat none_, List.length_append, List.length_cons]
    omega

/-! ## Void segments at the end -/

theorem withoutTrailingVoids_begins (segments : List Bytes) :
    ∃ voids, withoutTrailingVoids segments ++ voids = segments ∧
      ∀ void ∈ voids, isVoid void = true :=
  ⟨segments.rtakeWhile isVoid, List.rdropWhile_append_rtakeWhile,
    fun _ => List.mem_rtakeWhile_imp⟩

/-- What is left ends in a segment that names something. -/
theorem isVoid_last {segments before : List Bytes} {last : Bytes}
    (left : withoutTrailingVoids segments = before ++ [last]) : isVoid last = false := by
  have stripped : segments.rdropWhile isVoid = before ++ [last] := left
  have not_void := List.rdropWhile_last_not isVoid segments (by simp [stripped])
  simp only [stripped, List.getLast_append_singleton] at not_void
  exact eq_false_of_ne_true not_void

/-! ## Parents -/

theorem lead_begins (path : Bytes) : lead path <+: path := by
  unfold lead
  split
  · next absolute =>
      obtain ⟨rest, rfl⟩ : ∃ rest, path = slash :: rest :=
        ⟨_, List.eq_cons_of_mem_head? (eq_of_beq absolute)⟩
      exact List.prefix_append [slash] rest
  split
  · next dotted =>
      rcases Bool.or_eq_true_iff.1 dotted with only | more
      · exact eq_of_beq only ▸ List.prefix_rfl
      · cases path with
        | nil => cases more
        | cons b rest =>
            by_cases first : 0x2E = b
            · exact first ▸ List.prefix_append dot rest
            · simp [Bytes.dropLeading?, first] at more
  · exact List.nil_prefix

theorem lead_append_body (path : Bytes) : lead path ++ joined (body path) = path := by
  rw [body, joined_split]
  exact (List.prefix_iff_eq_append.1 (lead_begins path))

theorem parent?_eq_some {path above : Bytes} (up : parent? path = some above) :
    (lead path = dot ∧ above = []) ∨ ∃ before last,
      withoutTrailingVoids (body path) = before ++ [last] ∧
      above = lead path ++ joined (withoutTrailingVoids before) := by
  unfold parent? at up
  split at up
  · split at up
    · next dotted => exact .inl ⟨eq_of_beq dotted, (Option.some.inj up).symm⟩
    · cases up
  · next last before backwards =>
      refine .inr ⟨before.reverse, last, ?_, (Option.some.inj up).symm⟩
      simpa using congrArg List.reverse backwards

/-- A parent begins its path, and is shorter. -/
theorem parent?_begins {path above : Bytes} (up : parent? path = some above) :
    above <+: path ∧ above.length < path.length := by
  obtain ⟨dotted, rfl⟩ | ⟨before, last, left, rfl⟩ := parent?_eq_some up
  · refine ⟨List.nil_prefix, ?_⟩
    have := (dotted ▸ lead_begins path).length_le
    exact this
  · have some_ : last ≠ [] := by
      rintro rfl
      exact absurd (isVoid_last left) (by decide)
    obtain ⟨voids, stripped, -⟩ := withoutTrailingVoids_begins before
    obtain ⟨more, whole, -⟩ := withoutTrailingVoids_begins (body path)
    have beginning : joined (withoutTrailingVoids before) <+: joined before := by
      have := joined_begins (withoutTrailingVoids before) voids
      rwa [stripped] at this
    have longer := length_joined_concat some_ before
    have rest : joined (before ++ [last]) <+: joined (body path) := by
      have := joined_begins (withoutTrailingVoids (body path)) more
      rwa [whole, left] at this
    have whole_path := lead_append_body path
    constructor
    · conv => rhs; rw [← whole_path]
      refine (List.prefix_append_right_inj _).2 (beginning.trans ?_)
      exact (joined_begins before [last]).trans rest
    · conv => rhs; rw [← whole_path]
      rw [List.length_append, List.length_append]
      have := beginning.length_le
      have := rest.length_le
      omega

/-! ## Segments -/

open FileSystem (segments endsWithSlash)

theorem segments_slash (rest : Bytes) : segments (slash :: rest) = segments rest := by
  rw [segments, Bytes.split, if_pos rfl]
  rfl

theorem segments_joined {pieces : List Bytes} (free : ∀ piece ∈ pieces, slash ∉ piece) :
    segments (joined pieces) = pieces.filter fun piece => !piece.isEmpty := by
  by_cases some_ : pieces = []
  · subst some_
    rfl
  · rw [segments, split_joined some_ free]

theorem body_free (path : Bytes) : ∀ piece ∈ body path, slash ∉ piece :=
  Bytes.split_free _

theorem stripped_free {path : Bytes} {before : List Bytes}
    (inside : ∀ piece ∈ before, piece ∈ body path) :
    ∀ piece ∈ withoutTrailingVoids before, slash ∉ piece := by
  obtain ⟨voids, stripped, -⟩ := withoutTrailingVoids_begins before
  intro piece member
  exact body_free path piece (inside piece (stripped ▸ List.mem_append_left _ member))

theorem isAbsolute_of_begins {beginning path : Bytes} (begins : beginning <+: path)
    (absolute : isAbsolute beginning = true) : isAbsolute path = true := by
  obtain ⟨rest, rfl⟩ := begins
  cases beginning with
  | nil => cases absolute
  | cons b more => exact absolute

/-- A path ends in a slash only if its last piece is empty. -/
theorem endsWithSlash_concat {start last : Bytes} (some_ : last ≠ []) (free : slash ∉ last) :
    endsWithSlash (start ++ last) = false := by
  refine eq_false_of_ne_true fun ends => free ?_
  have at_end := eq_of_beq ends
  rw [List.getLast?_append_of_ne_nil _ some_] at at_end
  exact List.mem_of_getLast? at_end

theorem joined_ends (pieces : List Bytes) (last : Bytes) :
    ∃ start, joined (pieces ++ [last]) = start ++ last := by
  by_cases none_ : pieces = []
  · exact ⟨[], by rw [none_]; rfl⟩
  · refine ⟨joined pieces ++ [slash], ?_⟩
    rw [joined_concat none_, List.append_assoc]
    rfl

/-! ## Plain paths -/

/-- A path without `.` and `..`, and without a slash at its end unless it is the root. -/
structure IsPlain (path : Bytes) : Prop where
  no_dot : dot ∉ segments path
  no_dotDot : dotDot ∉ segments path
  open_end : endsWithSlash path = true → segments path = []

instance (path : Bytes) : Decidable (IsPlain path) :=
  decidable_of_iff (dot ∉ segments path ∧ dotDot ∉ segments path ∧
    (endsWithSlash path = true → segments path = []))
    ⟨fun ⟨no_dot, no_dotDot, open_end⟩ => ⟨no_dot, no_dotDot, open_end⟩,
      fun plain => ⟨plain.no_dot, plain.no_dotDot, plain.open_end⟩⟩

/-- A path that leads with a `.` has it as a segment. -/
theorem dot_mem_segments {path : Bytes} (dotted : leadsWithDot path = true) :
    dot ∈ segments path := by
  rcases Bool.or_eq_true_iff.1 dotted with only | more
  · rw [eq_of_beq only]
    decide
  · rcases path with - | ⟨a, - | ⟨b, rest⟩⟩
    · cases more
    · by_cases first : 0x2E = a <;> simp [Bytes.dropLeading?, first] at more
    · by_cases first : 0x2E = a
      · by_cases second : slash = b
        · have cut : Bytes.split slash (dot ++ slash :: rest) = dot :: Bytes.split slash rest :=
            Bytes.split_append (by decide) rest
          rw [← first, ← second, segments]
          show dot ∈ (Bytes.split slash (dot ++ slash :: rest)).filter _
          rw [cut]
          exact List.mem_filter.2 ⟨List.mem_cons_self, rfl⟩
        · simp [Bytes.dropLeading?, first, second] at more
      · simp [Bytes.dropLeading?, first] at more

namespace IsPlain

variable {path : Bytes} (plain : IsPlain path)

include plain

theorem lead_eq : lead path = if isAbsolute path then [slash] else [] := by
  unfold lead
  split
  · rfl
  · exact if_neg fun dotted => plain.no_dot (dot_mem_segments dotted)

theorem segments_lead (rest : Bytes) : segments (lead path ++ rest) = segments rest := by
  rw [plain.lead_eq]
  split
  · exact segments_slash rest
  · rfl

theorem segments_eq : segments path = (body path).filter fun piece => !piece.isEmpty := by
  conv => lhs; rw [← lead_append_body path]
  rw [plain.segments_lead, segments_joined (body_free path)]

/-- What names nothing in a plain path is empty. -/
theorem isEmpty_of_void {piece : Bytes} (member : piece ∈ body path) (void : isVoid piece = true) :
    piece.isEmpty = true := by
  rcases Bool.or_eq_true_iff.1 void with empty | is_dot
  · exact empty
  · refine absurd ?_ plain.no_dot
    rw [plain.segments_eq]
    exact List.mem_filter.2 ⟨eq_of_beq is_dot ▸ member, rfl⟩

/-- Segments are not lost with the void ones at the end. -/
theorem filter_withoutTrailingVoids {pieces : List Bytes} (some_ : ∀ piece ∈ pieces, piece ∈ body path) :
    ((withoutTrailingVoids pieces).filter fun piece => !piece.isEmpty) =
      pieces.filter fun piece => !piece.isEmpty := by
  obtain ⟨voids, stripped, all_void⟩ := withoutTrailingVoids_begins pieces
  have none_left : (voids.filter fun piece => !piece.isEmpty) = [] := by
    refine List.filter_eq_nil_iff.2 fun void member => ?_
    have inside : void ∈ body path := some_ void (stripped ▸ List.mem_append_right _ member)
    simp [plain.isEmpty_of_void inside (all_void void member)]
  conv => rhs; rw [← stripped]
  rw [List.filter_append, none_left, List.append_nil]

variable {above : Bytes} (up : parent? path = some above)

include up

/-- The parent is made of what comes before the last segment. -/
theorem parent_eq : ∃ before last, withoutTrailingVoids (body path) = before ++ [last] ∧
    (∀ piece ∈ before, piece ∈ body path) ∧
    above = lead path ++ joined (withoutTrailingVoids before) := by
  obtain ⟨dotted, -⟩ | ⟨before, last, left, same⟩ := parent?_eq_some up
  · rw [plain.lead_eq] at dotted
    split at dotted <;> cases dotted
  · refine ⟨before, last, left, fun piece inside => ?_, same⟩
    obtain ⟨voids, whole, -⟩ := withoutTrailingVoids_begins (body path)
    rw [← whole, left]
    exact List.mem_append_left _ (List.mem_append_left _ inside)

theorem segments_of_parent : ∃ name, segments path = segments above ++ [name] := by
  obtain ⟨before, last, left, inside, same⟩ := plain.parent_eq up
  have some_ : last.isEmpty = false := (Bool.or_eq_false_iff.1 (isVoid_last left)).1
  have segments_above : segments above = before.filter fun piece => !piece.isEmpty := by
    rw [same, plain.segments_lead, segments_joined (stripped_free inside),
      plain.filter_withoutTrailingVoids inside]
  refine ⟨last, ?_⟩
  rw [plain.segments_eq, ← plain.filter_withoutTrailingVoids fun _ member => member, left,
    List.filter_append, ← segments_above]
  simp [some_]

theorem isAbsolute_of_parent : isAbsolute above = isAbsolute path := by
  cases absolute : isAbsolute path with
  | true =>
      obtain ⟨before, last, -, -, same⟩ := plain.parent_eq up
      rw [same, plain.lead_eq, if_pos absolute]
      rfl
  | false =>
      refine eq_false_of_ne_true fun above_absolute => ?_
      have := isAbsolute_of_begins (parent?_begins up).1 above_absolute
      rw [absolute] at this
      cases this

/-- Only where the parent is the root does it end in a slash. -/
theorem open_of_parent (ends : endsWithSlash above = true) : segments above = [] := by
  obtain ⟨before, last, -, inside, same⟩ := plain.parent_eq up
  have free := stripped_free inside
  rcases List.eq_nil_or_concat (withoutTrailingVoids before) with none_ | ⟨front, final, parted⟩
  · rw [same, none_, plain.segments_lead]
    rfl
  · rw [List.concat_eq_append] at parted
    have some_ : final ≠ [] := by
      rintro rfl
      cases isVoid_last parted
    have final_free : slash ∉ final := free final (parted ▸ List.mem_append_right _ List.mem_cons_self)
    obtain ⟨start, joined_eq⟩ := joined_ends front final
    rw [same, parted, joined_eq, ← List.append_assoc, endsWithSlash_concat some_ final_free] at ends
    cases ends

end IsPlain

/-- The parent of a plain path is plain. -/
theorem parent?_plain {path above : Bytes} (plain : IsPlain path)
    (up : parent? path = some above) : IsPlain above := by
  obtain ⟨name, parted⟩ := plain.segments_of_parent up
  have still {segment : Bytes} (inside : segment ∈ segments above) : segment ∈ segments path := by
    rw [parted]
    exact List.mem_append_left _ inside
  exact ⟨mt still plain.no_dot, mt still plain.no_dotDot, plain.open_of_parent up⟩

theorem exists_parent? {path : Bytes} (plain : IsPlain path) (some_ : segments path ≠ []) :
    ∃ above, parent? path = some above := by
  cases up : parent? path with
  | some above => exact ⟨above, rfl⟩
  | none =>
      refine absurd ?_ some_
      unfold parent? at up
      split at up
      · next none_ =>
          rw [plain.segments_eq, ← plain.filter_withoutTrailingVoids fun _ member => member,
            List.reverse_eq_nil_iff.1 none_]
          rfl
      · cases up

/-- A plain path that has a parent does not end in a slash, and it has a name. -/
theorem IsPlain.named_of_parent {path above : Bytes} (plain : IsPlain path)
    (up : parent? path = some above) :
    segments path ≠ [] ∧ endsWithSlash path = false := by
  obtain ⟨name, parted⟩ := plain.segments_of_parent up
  have some_ : segments path ≠ [] := by
    rw [parted]
    exact List.concat_ne_nil name _
  exact ⟨some_, eq_false_of_ne_true fun ends => some_ (plain.open_end ends)⟩

/-- What comes above a path: its parent, the parent of that and so on.  The empty path is not
among them; it stands for the current directory. -/
inductive Above (path : Bytes) : Bytes → Prop
  | parent {above : Bytes} (up : parent? path = some above) (some_ : above ≠ []) : Above path above
  | further {between above : Bytes} (nearer : Above path between)
      (up : parent? between = some above) (some_ : above ≠ []) : Above path above

/-- What comes above the parent comes above the path. -/
theorem Above.of_parent {path between above : Bytes} (up : parent? path = some between)
    (further : Above between above) : Above path above := by
  induction further with
  | parent upToo some_too =>
      have some_ : between ≠ [] :=
        List.ne_nil_of_length_pos (Nat.zero_lt_of_lt (parent?_begins upToo).2)
      exact .further (.parent up some_) upToo some_too
  | further _ upToo some_too nearer => exact .further nearer upToo some_too

end Path

end ListExpansion
