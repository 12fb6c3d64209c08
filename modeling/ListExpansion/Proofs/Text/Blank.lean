/-
# ListExpansion.Proofs.Text.Blank -- what trimming takes away

Trimming takes blank text from both ends (`exists_padding`) and all of it, so that blank text
around a text makes no difference (`trim_padded`).  White space has no case, so it does not
matter whether a text is trimmed or put in lower case first (`trim_lowerAscii`).
-/
import ListExpansion.Text.Blank
import Mathlib.Data.List.DropRight

namespace ListExpansion.Text

set_option autoImplicit false

section Lists

variable {α β : Type} {p : α → Bool} {before items after : List α}

theorem trimBoth_eq : trimBoth p items = (items.dropWhile p).rdropWhile p := rfl

theorem exists_trimmed (p : α → Bool) (items : List α) :
    ∃ before after, items = before ++ (trimBoth p items ++ after) ∧
      (∀ item ∈ before, p item = true) ∧ ∀ item ∈ after, p item = true := by
  refine ⟨items.takeWhile p, (items.dropWhile p).rtakeWhile p, ?_,
    fun item => List.mem_takeWhile_imp, fun item => List.mem_rtakeWhile_imp⟩
  rw [trimBoth_eq, List.rdropWhile_append_rtakeWhile, List.takeWhile_append_dropWhile]

theorem rdropWhile_append_of_pos (all : ∀ item ∈ after, p item = true) :
    (items ++ after).rdropWhile p = items.rdropWhile p := by
  rw [List.rdropWhile, List.reverse_append,
    List.dropWhile_append_of_pos fun item there => all item (List.mem_reverse.1 there)]
  rfl

theorem trimBoth_append (all_before : ∀ item ∈ before, p item = true)
    (all_after : ∀ item ∈ after, p item = true) :
    trimBoth p (before ++ (items ++ after)) = trimBoth p items := by
  rw [trimBoth_eq, trimBoth_eq, List.dropWhile_append_of_pos all_before, List.dropWhile_append]
  split
  · next void =>
      -- Nothing is left of the items, nor of what follows them.
      rw [List.isEmpty_iff.1 void, List.dropWhile_eq_nil_iff.2 all_after]
  · exact rdropWhile_append_of_pos all_after

/-- What begins and ends with something else is left as it is. -/
theorem trimBoth_of_forall (none : ∀ item ∈ items, p item = false) : trimBoth p items = items := by
  have front : items.dropWhile p = items := by
    cases items with
    | nil => rfl
    | cons item rest => rw [List.dropWhile_cons_of_neg (by simp [none item List.mem_cons_self])]
  rw [trimBoth_eq, front, List.rdropWhile_eq_self_iff]
  intro nonempty
  simp [none _ (List.getLast_mem nonempty)]

theorem trimBoth_map (f : β → α) (items : List β) :
    trimBoth p (items.map f) = (trimBoth (p ∘ f) items).map f := by
  simp only [trimBoth, List.dropWhile_map, ← List.map_reverse]

end Lists

/-! ## Texts -/

variable {before text after : String}

theorem isBlank_iff : isBlank text = true ↔ ∀ c ∈ text.toList, isWhiteSpace c = true :=
  List.all_eq_true

/-- A text is what trimming leaves of it, between blank texts. -/
theorem exists_padding (text : String) :
    ∃ before after, text = before ++ (trim text ++ after) ∧ isBlank before = true ∧
      isBlank after = true := by
  obtain ⟨before, after, parted, blank_before, blank_after⟩ :=
    exists_trimmed isWhiteSpace text.toList
  refine ⟨.ofList before, .ofList after, ?_, isBlank_iff.2 (by simpa using blank_before),
    isBlank_iff.2 (by simpa using blank_after)⟩
  rw [← String.toList_inj]
  simpa [trim] using parted

theorem trim_padded (blank_before : isBlank before = true) (blank_after : isBlank after = true) :
    trim (before ++ (text ++ after)) = trim text := by
  unfold trim
  rw [String.toList_append, String.toList_append,
    trimBoth_append (isBlank_iff.1 blank_before) (isBlank_iff.1 blank_after)]

theorem trim_of_forall (none : ∀ c ∈ text.toList, isWhiteSpace c = false) : trim text = text := by
  rw [trim, trimBoth_of_forall none, String.ofList_toList]

theorem isWhiteSpace_toLower (c : Char) : isWhiteSpace c.toLower = isWhiteSpace c := by
  unfold Char.toLower
  split
  · next upper =>
      obtain ⟨least, most⟩ := upper
      have least : 65 ≤ c.toNat := least
      have most : c.toNat ≤ 90 := most
      -- Neither a capital letter nor the small one 32 places on is in any of the ranges.
      have small : (c.val + ('a'.val - 'A'.val)).toNat = c.toNat + 32 := by
        rw [UInt32.toNat_add]
        have : ('a'.val - 'A'.val).toNat = 32 := rfl
        have : c.val.toNat = c.toNat := rfl
        omega
      have outside {v : Nat} (least : 65 ≤ v) (most : v ≤ 122) :
          inRanges whiteSpaceRanges v = false := by
        simp only [inRanges, whiteSpaceRanges, List.any_cons, List.any_nil, Bool.or_false,
          Bool.or_eq_false_iff, Bool.and_eq_false_iff, decide_eq_false_iff_not]
        omega
      rw [isWhiteSpace, isWhiteSpace, Char.toNat, small, outside (by omega) (by omega),
        outside (by omega) (by omega)]
  · rfl

theorem trim_lowerAscii (text : String) : trim (lowerAscii text) = lowerAscii (trim text) := by
  have caseless : isWhiteSpace ∘ Char.toLower = isWhiteSpace := funext isWhiteSpace_toLower
  simp only [trim, lowerAscii, String.toList_ofList, trimBoth_map, caseless]

end ListExpansion.Text
