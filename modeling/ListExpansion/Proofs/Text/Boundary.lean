/-
# ListExpansion.Proofs.Text.Boundary -- where text may be cut and joined

Octets are text (`IsText`) when they are what is written for some text.  Joined texts are
text, and behind a text just text makes text (`isText_encode_append`): the machine reads
the one as if nothing followed.

In front of a text it is the octet at the seam that counts.  One that begins an encoding is
part of no other, so what stands before it must be whole (`isText_append_iff`).  Two broken
parts may mend each other, but nothing that is text mends a broken part.
-/
import ListExpansion.Proofs.Text.Utf8

namespace ListExpansion

set_option autoImplicit false

namespace Bytes

@[simp] theorem ofText_empty : ofText "" = [] := rfl

@[simp] theorem ofText_append (one other : String) :
    ofText (one ++ other) = ofText one ++ ofText other := by
  simp [ofText]

@[simp] theorem ofText_singleton (c : Char) :
    ofText (String.singleton c) = String.utf8EncodeChar c := by
  simp [ofText]

end Bytes

namespace Utf8

/-- The octets are written for some text. -/
def IsText (octets : Bytes) : Prop := ∃ text, Bytes.ofText text = octets

theorem isText_ofText (text : String) : IsText (Bytes.ofText text) := ⟨text, rfl⟩

theorem isText_flatMap (chars : List Char) : IsText (chars.flatMap String.utf8EncodeChar) :=
  ⟨String.ofList chars, by rw [Bytes.ofText, String.toList_ofList]⟩

theorem isText_nil : IsText [] := isText_ofText ""

theorem IsText.append {before after : Bytes} (first : IsText before) (second : IsText after) :
    IsText (before ++ after) := by
  obtain ⟨one, rfl⟩ := first
  obtain ⟨other, rfl⟩ := second
  exact ⟨one ++ other, Bytes.ofText_append one other⟩

theorem all_isSome_char? (cut : List Piece) :
    (cut.all fun piece => piece.char?.isSome) = (cut.mapM Piece.char?).isSome := by
  induction cut with
  | nil => rfl
  | cons piece cut ih =>
      cases piece with
      | char c octets =>
          rw [List.all_cons, List.mapM_cons, Piece.char?, Option.isSome_some, Bool.true_and, ih]
          cases cut.mapM Piece.char? <;> rfl
      | broken octets => simp [Piece.char?]

/-- The machine tells text from what is none. -/
theorem isText_iff (octets : Bytes) : isText octets = true ↔ IsText octets := by
  rw [isText, all_isSome_char?, ← Option.isSome_map (f := String.ofList), Option.isSome_iff_exists]
  exact exists_congr fun text => decode?_eq_some_iff octets text

instance (octets : Bytes) : Decidable (IsText octets) :=
  decidable_of_iff _ (isText_iff octets)

/-! ## Encodings -/

section Encoding

variable {c d : Char} {rest more : Bytes}

/-- No encoding begins another. -/
theorem encode_append_inj (same : String.utf8EncodeChar c ++ rest = String.utf8EncodeChar d ++ more) :
    c = d ∧ rest = more := by
  have read := congrArg (piecesFrom none) same
  rw [piecesFrom_char, piecesFrom_char] at read
  obtain ⟨rfl, -⟩ := Piece.char.inj (List.cons.inj read).1
  exact ⟨rfl, List.append_cancel_left same⟩

/-- An encoding is not empty, so it hides what follows it. -/
theorem head?_encode_append (c : Char) (rest : Bytes) :
    (String.utf8EncodeChar c ++ rest).head? = (String.utf8EncodeChar c).head? := by
  rw [List.head?_append, List.head?_eq_some_head String.utf8EncodeChar_ne_nil, Option.some_or]

/-- What an encoding begins with. -/
theorem starts_encode {b : UInt8} (head : (String.utf8EncodeChar c ++ rest).head? = some b) :
    b.IsUTF8FirstByte := by
  have first := UInt8.isUTF8FirstByte_getElem_zero_utf8EncodeChar (c := c)
  rw [head?_encode_append, List.head?_eq_getElem?] at head
  obtain ⟨_, rfl⟩ := List.getElem?_eq_some_iff.1 head
  exact first

/-- What begins an encoding is found nowhere else in one. -/
theorem encode_of_starts {b : UInt8} {before : Bytes} (first : b.IsUTF8FirstByte)
    (encoded : String.utf8EncodeChar c = before ++ b :: rest) : before = [] := by
  have inside : before.length < (String.utf8EncodeChar c).length := by simp [encoded]
  have there : (String.utf8EncodeChar c)[before.length] = b := by simp [encoded]
  rw [← there, UInt8.isUTF8FirstByte_getElem_utf8EncodeChar] at first
  exact List.eq_nil_of_length_eq_zero first

/-- An octet below 0x80 is an encoding of its own and part of no other. -/
theorem encode_of_ascii {b : UInt8} (ascii : b.toNat < 0x80) (member : b ∈ String.utf8EncodeChar c) :
    String.utf8EncodeChar c = [b] := by
  have alone : String.utf8EncodeChar (Char.ofNat b.toNat) = [b] := encode_one ascii
  have first : b.IsUTF8FirstByte := by
    have begins := UInt8.isUTF8FirstByte_getElem_zero_utf8EncodeChar (c := Char.ofNat b.toNat)
    simpa only [alone, List.getElem_cons_zero] using begins
  obtain ⟨before, more, encoded⟩ := List.append_of_mem member
  obtain rfl : before = [] := encode_of_starts first encoded
  have same : String.utf8EncodeChar c ++ [] = String.utf8EncodeChar (Char.ofNat b.toNat) ++ more := by
    rw [encoded, alone, List.append_nil]
    rfl
  rw [(encode_append_inj same).1, alone]

end Encoding

/-! ## Seams -/

section Seam

variable {before after : Bytes}

theorem isText_encode_append (c : Char) (rest : Bytes) :
    IsText (String.utf8EncodeChar c ++ rest) ↔ IsText rest := by
  constructor
  · rintro ⟨text, written⟩
    cases chars : text.toList with
    | nil => simp [Bytes.ofText, chars] at written
    | cons d more =>
        rw [Bytes.ofText, chars, List.flatMap_cons] at written
        obtain ⟨-, rfl⟩ := encode_append_inj written
        exact isText_flatMap more
  · intro text
    rw [← Bytes.ofText_singleton]
    exact (isText_ofText _).append text

theorem isText_append_of_flatMap (starts : ∀ b, after.head? = some b → b.IsUTF8FirstByte)
    (chars : List Char) (written : chars.flatMap String.utf8EncodeChar = before ++ after) :
    IsText before ∧ IsText after := by
  induction chars generalizing before with
  | nil =>
      obtain ⟨rfl, rfl⟩ := List.append_eq_nil_iff.1 written.symm
      exact ⟨isText_nil, isText_nil⟩
  | cons c chars ih =>
      rw [List.flatMap_cons, List.append_eq_append_iff] at written
      rcases written with ⟨later, rfl, written⟩ | ⟨later, encoded, rfl⟩
      · obtain ⟨first, second⟩ := ih written
        exact ⟨(isText_encode_append c later).2 first, second⟩
      · cases later with
        | nil =>
            have whole : IsText before := by
              rw [← List.append_nil before, ← encoded, ← Bytes.ofText_singleton]
              exact isText_ofText _
            exact ⟨whole, isText_flatMap chars⟩
        | cons b later =>
            obtain rfl : before = [] := encode_of_starts (starts b rfl) encoded
            refine ⟨isText_nil, ?_⟩
            rw [List.nil_append] at encoded
            rw [← encoded, isText_encode_append]
            exact isText_flatMap chars

/-- **A cut before an octet that begins an encoding parts text from text.** -/
theorem isText_append_iff (starts : ∀ b, after.head? = some b → b.IsUTF8FirstByte) :
    IsText (before ++ after) ↔ IsText before ∧ IsText after := by
  constructor
  · rintro ⟨text, written⟩
    exact isText_append_of_flatMap starts text.toList written
  · rintro ⟨first, second⟩
    exact first.append second

end Seam

end Utf8

end ListExpansion
