/-
# ListExpansion.Proofs.Config.Reading -- what a record gives for a field

Of a record with named fields only the values under a field's names matter
(`Given.valuesUnder`), and those only while there is at most one (`Given.only?`).  Neither
asks for the order of the fields or for names that are none of the field's.
-/
import ListExpansion.Config.Reading
import Mathlib.Data.List.Pairwise

namespace ListExpansion.Given

set_option autoImplicit false

variable {ν : Type} {names : List String} {name : String} {value : ν}
  {values before after fields more : List (String × ν)}

/-! ## Values under a field's names -/

/-- The values that stand under any of the names. -/
def valuesUnder (names : List String) (fields : List (String × ν)) : List ν :=
  (fields.filter fun (name, _) => names.contains name).map Prod.snd

/-- The outer `none` is one value too many. -/
def only? : List ν → Option (Option ν)
  | [] => some none
  | [value] => some (some value)
  | _ => none

theorem value?_named (fields : List (String × ν)) (field : Field) :
    (named fields).value? field = only? (valuesUnder field.names fields) := by
  simp only [value?, valuesUnder]
  generalize fields.filter (fun (name, _) => field.names.contains name) = held
  match held with
  | [] | [_] | _ :: _ :: _ => rfl

@[simp]
theorem valuesUnder_append :
    valuesUnder names (fields ++ more) = valuesUnder names fields ++ valuesUnder names more := by
  simp [valuesUnder]

theorem valuesUnder_cons_of_mem (known : name ∈ names) :
    valuesUnder names ((name, value) :: fields) = value :: valuesUnder names fields := by
  simp [valuesUnder, known]

theorem valuesUnder_cons_of_not_mem (unknown : name ∉ names) :
    valuesUnder names ((name, value) :: fields) = valuesUnder names fields := by
  simp [valuesUnder, unknown]

theorem valuesUnder_perm (same : fields.Perm more) :
    (valuesUnder names fields).Perm (valuesUnder names more) :=
  (same.filter _).map _

theorem mem_valuesUnder :
    value ∈ valuesUnder names fields ↔ ∃ name ∈ names, (name, value) ∈ fields := by
  simp only [valuesUnder, List.mem_map, List.mem_filter, List.contains_iff_mem, Prod.exists,
    exists_eq_right]
  exact exists_congr fun name => and_comm

/-! ## At most one -/

theorem only?_perm {these those : List ν} (same : these.Perm those) :
    only? these = only? those := by
  have length := same.length_eq
  match these, those with
  | [], [] => rfl
  | [_], [_] => rw [List.singleton_perm_singleton.1 same]
  | _ :: _ :: _, _ :: _ :: _ => rfl
  | [], _ :: _ | [_], [] | [_], _ :: _ :: _ | _ :: _ :: _, [] | _ :: _ :: _, [_] => simp at length

/-- A value that is there is the only one, or is one of too many. -/
theorem only?_middle (early late : List ν) :
    (early = [] ∧ late = []) ∨ ∀ value : ν, only? (early ++ value :: late) = none := by
  match early, late with
  | [], [] => exact .inl ⟨rfl, rfl⟩
  | [], _ :: _ | [_], _ | _ :: _ :: _, _ => exact .inr fun value => rfl

theorem only?_two (early between late : List ν) (first second : ν) :
    only? (early ++ first :: (between ++ second :: late)) = none := by
  obtain ⟨-, last⟩ | spoilt := only?_middle early (between ++ second :: late)
  · simp at last
  · exact spoilt first

/-- A field that may be left out is left out, or has one value. -/
theorem defaulting_named {α : Type} {field : Field} {default result : α} {read : ν → Option α}
    (obtained : (named fields).defaulting field default read = some result) :
    (result = default ∧ ∀ name ∈ field.names, ∀ value, (name, value) ∉ fields) ∨
      ∃ value, read value = some result ∧
        ∀ value', (∃ name ∈ field.names, (name, value') ∈ fields) ↔ value' = value := by
  simp only [defaulting, value?_named] at obtained
  have held (value : ν) : value ∈ valuesUnder field.names fields ↔
      ∃ name ∈ field.names, (name, value) ∈ fields := mem_valuesUnder
  revert obtained held
  match valuesUnder field.names fields with
  | [] =>
      intro obtained held
      refine .inl ⟨(Option.some.inj obtained).symm, fun name known value there => ?_⟩
      cases (held value).2 ⟨name, known, there⟩
  | [value] =>
      intro obtained held
      refine .inr ⟨value, obtained, fun value' => ?_⟩
      rw [← held value', List.mem_singleton]
  | first :: second :: more =>
      intro obtained held
      cases obtained

/-! ## Fields that are told apart -/

/-- No name is a name of two fields. -/
def Apart {σ : Type} (known : List (List String × σ)) : Prop :=
  known.Pairwise fun one other => ∀ name ∈ one.1, name ∉ other.1

instance {σ : Type} (known : List (List String × σ)) : Decidable (Apart known) :=
  inferInstanceAs (Decidable (List.Pairwise _ _))

theorem Apart.eq_of_mem {σ : Type} {known : List (List String × σ)} (apart : Apart known)
    {one other : List String × σ} (here : one ∈ known) (there : other ∈ known)
    (first : name ∈ one.1) (second : name ∈ other.1) : one = other := by
  by_contra distinct
  -- The relation is symmetric, so it holds whichever of the two stands first.
  have symmetric : Std.Symm fun one other : List String × σ => ∀ name ∈ one.1, name ∉ other.1 :=
    ⟨fun one other disjoint name left right => disjoint name right left⟩
  exact apart.forall here there distinct name first second

end ListExpansion.Given
