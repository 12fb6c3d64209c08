/-
# ListExpansion.Proofs.Template -- substitution is one pass over the template

`Cut` says without a scanner how a template falls into tokens: they spell it, and no `%`
is left among them before a letter that it makes a placeholder with.  There is one such
cut, and `tokens` finds it (`tokens_eq_iff`).

Two templates are cut apart from each other unless they meet in a placeholder (`Meet`,
`tokens_append`).  With what a character and a placeholder come to, that is all there is to
substitution (`OnePass.unique`): what an address brings in never meets what comes after it.
-/
import ListExpansion.Proofs.Address.Parts
import ListExpansion.Template

namespace ListExpansion.Template

set_option autoImplicit false

/-! ## Placeholders and the template's edges -/

/-- The letter that makes this placeholder with a `%` before it. -/
def Placeholder.letter : Placeholder → UInt8
  | .address => 0x75
  | .domain => 0x64
  | .localPart => 0x6E

/-- The placeholder as it is written. -/
def Placeholder.text : Placeholder → String
  | .address => "%u"
  | .domain => "%d"
  | .localPart => "%n"

theorem ofText_placeholder (which : Placeholder) :
    Bytes.ofText which.text = [percent, which.letter] := by
  cases which <;> decide

theorem ofLetter?_eq_some_iff {letter : UInt8} {which : Placeholder} :
    Placeholder.ofLetter? letter = some which ↔ letter = which.letter := by
  constructor
  · intro made
    unfold Placeholder.ofLetter? at made
    split at made
    · next isAddress => cases made; exact isAddress
    · split at made
      · next isDomain => cases made; exact isDomain
      · split at made
        · next isLocal => cases made; exact isLocal
        · cases made
  · rintro rfl
    cases which <;> rfl

theorem letter_ne_percent (which : Placeholder) : which.letter ≠ percent := by
  cases which <;> decide

/-- `before` ends in `%` and `after` begins with a letter that makes a placeholder of it. -/
def Meet (before after : Bytes) : Prop :=
  before.getLast? = some percent ∧ ∃ which : Placeholder, after.head? = some which.letter

section Meet

variable {before after : Bytes}

theorem not_meet_nil (before : Bytes) : ¬ Meet before [] := fun ⟨_, _, starts⟩ => nomatch starts

/-- A placeholder is closed on its right. -/
theorem not_meet_placeholder (which : Placeholder) (after : Bytes) :
    ¬ Meet [percent, which.letter] after :=
  fun ⟨ends, _⟩ => letter_ne_percent which (Option.some.inj ends)

theorem Meet.cons (meet : Meet before after) (b : UInt8) : Meet (b :: before) after := by
  obtain ⟨ends, starts⟩ := meet
  exact ⟨by rw [List.getLast?_cons, ends]; rfl, starts⟩

end Meet

/-! ## Tokens -/

theorem tokens_placeholder (which : Placeholder) (rest : Bytes) :
    tokens (percent :: which.letter :: rest) = .placeholder which :: tokens rest := by
  rw [tokens, if_pos rfl, ofLetter?_eq_some_iff.2 rfl]

theorem tokens_literal {b : UInt8} {rest : Bytes} (apart : ¬ Meet [b] rest) :
    tokens (b :: rest) = .literal b :: tokens rest := by
  cases rest with
  | nil => rfl
  | cons letter rest =>
      by_cases isPercent : b = percent
      · subst isPercent
        cases made : Placeholder.ofLetter? letter with
        | none => rw [tokens, if_pos rfl, made]
        | some which =>
            have meet : Meet [percent] (letter :: rest) :=
              ⟨rfl, which, congrArg some (ofLetter?_eq_some_iff.1 made)⟩
            exact absurd meet apart
      · rw [tokens, if_neg isPercent]

/-- A template begins with a placeholder or with an octet that stays as it is. -/
theorem octets_induction {motive : Bytes → Prop} (empty : motive [])
    (placeholder : ∀ (which : Placeholder) (rest : Bytes),
      motive rest → motive (percent :: which.letter :: rest))
    (literal : ∀ (b : UInt8) (rest : Bytes), ¬ Meet [b] rest → motive rest → motive (b :: rest))
    (template : Bytes) : motive template := by
  induction template using tokens.induct with
  | case1 => exact empty
  | case2 b => exact literal b [] (not_meet_nil [b]) empty
  | case3 letter rest which made ih =>
      obtain rfl := ofLetter?_eq_some_iff.1 made
      exact placeholder which rest ih
  | case4 letter rest made ih =>
      refine literal percent (letter :: rest) ?_ ih
      rintro ⟨-, which, starts⟩
      rw [ofLetter?_eq_some_iff.2 (Option.some.inj starts)] at made
      cases made
  | case5 b letter rest other ih =>
      exact literal b (letter :: rest) (fun meet => other (Option.some.inj meet.1)) ih

/-- Templates that do not meet are cut apart from each other. -/
theorem tokens_append {one other : Bytes} (apart : ¬ Meet one other) :
    tokens (one ++ other) = tokens one ++ tokens other := by
  induction one using octets_induction with
  | empty => rfl
  | placeholder which rest ih =>
      have restApart : ¬ Meet rest other := fun meet => apart ((meet.cons _).cons _)
      rw [List.cons_append, List.cons_append, tokens_placeholder, tokens_placeholder, ih restApart,
        List.cons_append]
  | literal b rest single ih =>
      have restApart : ¬ Meet rest other := fun meet => apart (meet.cons b)
      have whole : ¬ Meet [b] (rest ++ other) := by
        cases rest with
        | nil => exact apart
        | cons c rest => exact single
      rw [List.cons_append, tokens_literal whole, tokens_literal single, ih restApart,
        List.cons_append]

theorem tokens_of_not_mem {octets : Bytes} (free : percent ∉ octets) :
    tokens octets = octets.map .literal := by
  induction octets with
  | nil => rfl
  | cons b rest ih =>
      obtain ⟨other, free⟩ := List.ne_and_not_mem_of_not_mem_cons free
      rw [tokens_literal fun meet => other (Option.some.inj meet.1).symm, ih free, List.map_cons]

/-- A character alone is no placeholder. -/
theorem tokens_encode (c : Char) :
    tokens (String.utf8EncodeChar c) = (String.utf8EncodeChar c).map .literal := by
  by_cases isPercent : percent ∈ String.utf8EncodeChar c
  · rw [Utf8.encode_of_ascii (by decide) isPercent]
    rfl
  · exact tokens_of_not_mem isPercent

/-! ## The cut -/

/-- The octets that a token is cut from. -/
def Token.spelling : Token → Bytes
  | .literal octet => [octet]
  | .placeholder which => [percent, which.letter]

/-- `cut` spells the template, and every `%` that a letter makes a placeholder of is one. -/
structure Cut (template : Bytes) (cut : List Token) : Prop where
  spelled : cut.flatMap Token.spelling = template
  greedy : ∀ which : Placeholder, ¬ [Token.literal percent, .literal which.letter] <:+: cut

theorem spelling_tokens (template : Bytes) :
    (tokens template).flatMap Token.spelling = template := by
  induction template using octets_induction with
  | empty => rfl
  | placeholder which rest ih =>
      rw [tokens_placeholder, List.flatMap_cons, ih]
      rfl
  | literal b rest apart ih =>
      rw [tokens_literal apart, List.flatMap_cons, ih]
      rfl

/-- An octet meets what comes after it when the tokens of the two leave a placeholder uncut. -/
theorem meet_spelling {b : UInt8} {cut : List Token} :
    Meet [b] (cut.flatMap Token.spelling) ↔
      ∃ which : Placeholder, [Token.literal percent, .literal which.letter] <+: .literal b :: cut := by
  constructor
  · rintro ⟨isPercent, which, starts⟩
    obtain rfl : b = percent := Option.some.inj isPercent
    refine ⟨which, ?_⟩
    match cut with
    | [] => cases starts
    | .literal octet :: cut =>
        obtain rfl : octet = which.letter := Option.some.inj starts
        exact ⟨cut, rfl⟩
    | .placeholder other :: cut =>
        exact absurd (Option.some.inj starts).symm (letter_ne_percent which)
  · rintro ⟨which, rest, begins⟩
    cases begins
    exact ⟨rfl, which, rfl⟩

theorem greedy_tokens (template : Bytes) (which : Placeholder) :
    ¬ [Token.literal percent, .literal which.letter] <:+: tokens template := by
  induction template using octets_induction with
  | empty => simp [tokens]
  | placeholder other rest ih =>
      rw [tokens_placeholder, List.infix_cons_iff]
      rintro (begins | later)
      · simp at begins
      · exact ih later
  | literal b rest apart ih =>
      rw [tokens_literal apart, List.infix_cons_iff]
      rintro (begins | later)
      · rw [← spelling_tokens rest] at apart
        exact apart (meet_spelling.2 ⟨which, begins⟩)
      · exact ih later

theorem Cut.eq_tokens {template : Bytes} {cut : List Token} (good : Cut template cut) :
    cut = tokens template := by
  induction cut generalizing template with
  | nil =>
      obtain rfl : [] = template := good.spelled
      rfl
  | cons token cut ih =>
      have rest : Cut (cut.flatMap Token.spelling) cut :=
        ⟨rfl, fun which left => good.greedy which (List.infix_cons left)⟩
      rw [← good.spelled, List.flatMap_cons]
      cases token with
      | literal b =>
          have apart : ¬ Meet [b] (cut.flatMap Token.spelling) := fun meet => by
            obtain ⟨which, begins⟩ := meet_spelling.1 meet
            exact good.greedy which begins.isInfix
          exact (congrArg _ (ih rest)).trans (tokens_literal apart).symm
      | placeholder which =>
          exact (congrArg _ (ih rest)).trans (tokens_placeholder which _).symm

/-- There is one cut, and `tokens` finds it. -/
theorem tokens_eq_iff {template : Bytes} {cut : List Token} :
    tokens template = cut ↔ Cut template cut :=
  ⟨fun found => found ▸ ⟨spelling_tokens template, greedy_tokens template⟩,
    fun good => good.eq_tokens.symm⟩

/-! ## Substitution -/

theorem flatMap_literal (parts : AddressParts) (octets : Bytes) :
    (octets.map Token.literal).flatMap (Token.value parts) = octets := by
  rw [List.flatMap_map]
  exact List.flatMap_singleton' octets

/-- `fill` puts the parts of an address into templates in one pass: a character stays what
it is, a placeholder becomes its value, and templates that do not meet are filled each on
its own. -/
structure OnePass (parts : AddressParts) (fill : String → Bytes) : Prop where
  character : ∀ c : Char, fill (String.singleton c) = String.utf8EncodeChar c
  placeholder : ∀ which : Placeholder, fill which.text = which.value parts
  append : ∀ one other : String, ¬ Meet (Bytes.ofText one) (Bytes.ofText other) →
    fill (one ++ other) = fill one ++ fill other

/-- A character that meets what comes after it begins a placeholder. -/
theorem Meet.begins_placeholder {c : Char} {chars : List Char}
    (meet : Meet (String.utf8EncodeChar c) (chars.flatMap String.utf8EncodeChar)) :
    ∃ (which : Placeholder) (d : Char) (rest : List Char),
      chars = d :: rest ∧ String.singleton c ++ String.singleton d = which.text := by
  obtain ⟨ends, which, starts⟩ := meet
  have isPercent : String.utf8EncodeChar c = [percent] :=
    Utf8.encode_of_ascii (by decide) (List.mem_of_getLast? ends)
  cases chars with
  | nil => cases starts
  | cons d rest =>
      rw [List.flatMap_cons, Utf8.head?_encode_append] at starts
      have isLetter : String.utf8EncodeChar d = [which.letter] :=
        Utf8.encode_of_ascii (by cases which <;> decide) (List.mem_of_mem_head? starts)
      refine ⟨which, d, rest, rfl, Utf8.ofText_injective ?_⟩
      rw [Bytes.ofText_append, Bytes.ofText_singleton, Bytes.ofText_singleton, isPercent, isLetter,
        ofText_placeholder, List.singleton_append]

/-- A template begins with a placeholder or with a character that stays as it is. -/
theorem text_induction {motive : String → Prop} (empty : motive "")
    (placeholder : ∀ (which : Placeholder) (rest : String),
      motive rest → motive (which.text ++ rest))
    (character : ∀ (c : Char) (rest : String),
      ¬ Meet (String.utf8EncodeChar c) (Bytes.ofText rest) →
        motive rest → motive (String.singleton c ++ rest))
    (template : String) : motive template := by
  -- A placeholder is two characters long, so the induction is on the length.
  suffices ofChars : ∀ chars : List Char, motive (String.ofList chars) by
    rw [← String.ofList_toList (s := template)]
    exact ofChars template.toList
  intro chars
  induction length : chars.length using Nat.strongRecOn generalizing chars with
  | _ length ih =>
      cases chars with
      | nil => exact empty
      | cons c chars =>
          by_cases meet : Meet (String.utf8EncodeChar c) (chars.flatMap String.utf8EncodeChar)
          · obtain ⟨which, d, rest, rfl, text⟩ := meet.begins_placeholder
            rw [String.ofList_cons, String.ofList_cons, ← String.append_assoc, text]
            exact placeholder which _ (ih rest.length (by simp at length; omega) rest rfl)
          · rw [String.ofList_cons]
            refine character c _ ?_ (ih chars.length (by simp at length; omega) chars rfl)
            rwa [Bytes.ofText, String.toList_ofList]

theorem OnePass.unique {parts : AddressParts} {fill other : String → Bytes}
    (first : OnePass parts fill) (second : OnePass parts other) : fill = other := by
  have empty {fill : String → Bytes} (onePass : OnePass parts fill) : fill "" = [] := by
    have twice := onePass.append "" "" (not_meet_nil [])
    rw [String.append_empty] at twice
    simpa using twice
  funext template
  induction template using text_induction with
  | empty => rw [empty first, empty second]
  | placeholder which rest ih =>
      have apart : ¬ Meet (Bytes.ofText which.text) (Bytes.ofText rest) := by
        rw [ofText_placeholder]
        exact not_meet_placeholder which _
      rw [first.append _ _ apart, second.append _ _ apart, first.placeholder, second.placeholder, ih]
  | character c rest apart ih =>
      rw [← Bytes.ofText_singleton] at apart
      rw [first.append _ _ apart, second.append _ _ apart, first.character, second.character, ih]

theorem onePass_substitute (address : Bytes) :
    OnePass (.ofAddress address) (substitute · address) where
  character c := by
    rw [substitute, Bytes.ofText_singleton, tokens_encode, flatMap_literal]
  placeholder which := by
    simp [substitute, ofText_placeholder, tokens_placeholder, tokens, Token.value]
  append one other apart := by
    simp [substitute, tokens_append apart]

/-- **Substitution is one pass from the left.**  A template has one cut into tokens, and each
token becomes its value, a placeholder that of the part of the address it names.  Just one
function copies characters, fills placeholders and may be applied to the two parts of a
template apart, unless a placeholder lies across the seam. -/
theorem substitute_one_pass (address : Bytes) :
    let parts := AddressParts.ofAddress address
    parts.Splits address ∧
    (∀ template : String, ∃ cut, Cut (Bytes.ofText template) cut ∧
      (∀ other, Cut (Bytes.ofText template) other → other = cut) ∧
      substitute template address = cut.flatMap (Token.value parts)) ∧
    ∀ fill : String → Bytes,
      OnePass parts fill ↔ fill = fun template => substitute template address := by
  intro parts
  refine ⟨AddressParts.ofAddress_splits address, fun template => ?_, fun fill => ?_⟩
  · exact ⟨_, tokens_eq_iff.1 rfl, fun other good => good.eq_tokens, rfl⟩
  · constructor
    · intro onePass
      exact onePass.unique (onePass_substitute address)
    · rintro rfl
      exact onePass_substitute address

/-- What the address brings in is not read again, also where it makes a placeholder with what
comes after it. -/
example : substitute "%nu" (Bytes.ofText "%d%@x") = Bytes.ofText "%d%u" := by decide

end ListExpansion.Template
