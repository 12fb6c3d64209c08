/-
# ListExpansion.Proofs.Directory.Encoding -- queries that cannot be filled in

A template is text, so only what an address brings into it can keep the result from being
text.  An address that is text never does (`isText_substitute`).

Where placeholders stand apart (`Template.Separated`) each value has text on both sides,
which does not mend it: the result is text just when every value in it is
(`isText_substitute_iff`).  Values that touch may mend each other.

A lookup goes by that alone: with text in both fields it is one search, and else none and
the first field that is no text (`lookUp_by_encoding`).
-/
import ListExpansion.Proofs.Directory.Query
import ListExpansion.Proofs.Directory.Recording
import ListExpansion.Proofs.Template

namespace ListExpansion

set_option autoImplicit false

namespace Template

/-! ## Templates that stay text -/

/-- Between two placeholders there is always a literal. -/
def Separated (cut : List Token) : Prop :=
  ∀ one other : Placeholder, ¬ [Token.placeholder one, .placeholder other] <:+: cut

theorem Separated.right {before after : List Token} (separated : Separated (before ++ after)) :
    Separated after :=
  fun one other together => separated one other (together.trans (List.suffix_append _ _).isInfix)

section Edge

variable {c : Char} {rest : String} (which : Placeholder) (address : Bytes)

theorem tokens_placeholder_text (rest : String) :
    tokens (Bytes.ofText (which.text ++ rest)) = .placeholder which :: tokens (Bytes.ofText rest) := by
  rw [Bytes.ofText_append, ofText_placeholder]
  exact tokens_placeholder which _

theorem tokens_character (apart : ¬ Meet (String.utf8EncodeChar c) (Bytes.ofText rest)) :
    tokens (Bytes.ofText (String.singleton c ++ rest)) =
      (String.utf8EncodeChar c).map .literal ++ tokens (Bytes.ofText rest) := by
  rw [Bytes.ofText_append, Bytes.ofText_singleton, tokens_append apart, tokens_encode]

theorem substitute_placeholder_text (rest : String) :
    substitute (which.text ++ rest) address =
      which.value (.ofAddress address) ++ substitute rest address := by
  rw [substitute, tokens_placeholder_text]
  rfl

theorem substitute_character (apart : ¬ Meet (String.utf8EncodeChar c) (Bytes.ofText rest)) :
    substitute (String.singleton c ++ rest) address =
      String.utf8EncodeChar c ++ substitute rest address := by
  rw [substitute, tokens_character apart, List.flatMap_append, flatMap_literal]
  rfl

end Edge

section Address

variable {address : Bytes}

theorem isText_value (text : Utf8.IsText address) (which : Placeholder) :
    Utf8.IsText (which.value (.ofAddress address)) := by
  have splits := AddressParts.ofAddress_splits address
  cases which with
  | address =>
      show Utf8.IsText (AddressParts.ofAddress address).full
      rwa [splits.full]
  | domain => exact (splits.isText text).2
  | localPart => exact (splits.isText text).1

/-- An address that is text spoils no template. -/
theorem isText_substitute (text : Utf8.IsText address) (template : String) :
    Utf8.IsText (substitute template address) := by
  induction template using text_induction with
  | empty => exact Utf8.isText_nil
  | placeholder which rest ih =>
      rw [substitute_placeholder_text]
      exact (isText_value text which).append ih
  | character c rest apart ih =>
      rw [substitute_character address apart, Utf8.isText_encode_append]
      exact ih

/-- Behind a placeholder that stands apart comes a character, or nothing. -/
theorem starts_substitute {which : Placeholder} {rest : String}
    (separated : Separated (.placeholder which :: tokens (Bytes.ofText rest))) (b : UInt8)
    (head : (substitute rest address).head? = some b) : b.IsUTF8FirstByte := by
  induction rest using text_induction with
  | empty => cases head
  | placeholder other rest =>
      rw [tokens_placeholder_text] at separated
      exact absurd (List.prefix_append [_, _] _).isInfix (separated which other)
  | character c rest apart =>
      rw [substitute_character address apart] at head
      exact Utf8.starts_encode head

/-- **Text that stands between broken parts does not mend them.** -/
theorem isText_substitute_iff {template : String}
    (separated : Separated (tokens (Bytes.ofText template))) :
    Utf8.IsText (substitute template address) ↔
      ∀ which, Token.placeholder which ∈ tokens (Bytes.ofText template) →
        Utf8.IsText (which.value (.ofAddress address)) := by
  induction template using text_induction with
  | empty => simpa [substitute, tokens] using Utf8.isText_nil
  | placeholder which rest ih =>
      rw [tokens_placeholder_text] at separated ⊢
      have rest_iff := ih (@Separated.right [_] _ separated)
      rw [substitute_placeholder_text, Utf8.isText_append_iff (starts_substitute separated), rest_iff]
      simp
  | character c rest apart ih =>
      rw [tokens_character apart] at separated ⊢
      rw [substitute_character address apart, Utf8.isText_encode_append, ih separated.right]
      simp

end Address

end Template

/-! ## Lookups -/

theorem fillIn_eq_error {template : String} {address : Bytes}
    (broken : ¬ Utf8.IsText (Template.substitute template address)) (field : QueryField) :
    fillIn field template address = .error (.encoding field) := by
  cases read : Utf8.decode? (Template.substitute template address) with
  | none => rw [fillIn, read]
  | some text => exact absurd ⟨text, (Utf8.decode?_eq_some_iff _ text).1 read⟩ broken

namespace Directory

variable {σ : Type} (directory : Directory σ) (query : Query) (address : Bytes)

/-- **A lookup is one search, or none if a field is no text.**  The base is looked at before
the filter, and the attribute is taken as it is. -/
theorem lookUp_by_encoding :
    let base := Template.substitute query.base address
    let filter := Template.substitute query.filter address
    (Utf8.IsText base → Utf8.IsText filter → ∃ search, query.Fills address search ∧
      ∀ state made, directory.recording.lookUp query address (state, made) =
        ((directory.search search state).1, (directory.search search state).2, made ++ [search])) ∧
    (¬ Utf8.IsText base → ∀ state made, directory.recording.lookUp query address (state, made) =
      (⟨.error (.encoding .base), []⟩, state, made)) ∧
    (Utf8.IsText base → ¬ Utf8.IsText filter →
      ∀ state made, directory.recording.lookUp query address (state, made) =
        (⟨.error (.encoding .filter), []⟩, state, made)) ∧
    (Utf8.IsText address → ∀ template, Utf8.IsText (Template.substitute template address)) ∧
    ∀ template, Template.Separated (Template.tokens (Bytes.ofText template)) →
      (Utf8.IsText (Template.substitute template address) ↔
        ∀ which, Template.Token.placeholder which ∈ Template.tokens (Bytes.ofText template) →
          Utf8.IsText (which.value (.ofAddress address))) := by
  intro base filter
  refine ⟨?_, ?_, ?_, Template.isText_substitute, fun _ => Template.isText_substitute_iff⟩
  · rintro ⟨baseText, ofBase⟩ ⟨filterText, ofFilter⟩
    have fills : query.Fills address ⟨baseText, filterText, query.resultAttribute⟩ :=
      ⟨ofBase, ofFilter, rfl⟩
    exact ⟨_, fills, fun state made => lookUp_fills directory.recording query address fills _⟩
  · intro broken state made
    rw [lookUp, Query.searchFor, fillIn_eq_error broken]
  · rintro ⟨baseText, ofBase⟩ broken state made
    rw [lookUp, Query.searchFor, (Query.fillIn_eq_ok_iff _ _ _).2 ofBase]
    simp only [fillIn_eq_error broken]

/-- Without a literal between them two broken parts may make a character. -/
example : Utf8.IsText (Template.substitute "%n%d" [0xC3, 0x40, 0xA9]) ∧
    ¬ Utf8.IsText [0xC3] ∧ ¬ Utf8.IsText [0xA9] := by decide

end Directory

end ListExpansion
