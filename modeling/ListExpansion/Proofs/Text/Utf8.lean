/-
# ListExpansion.Proofs.Text.Utf8 -- octets that are text

Reading undoes writing and nothing else: `decode?` gives a text for just the octets that
`Bytes.ofText` writes for it (`decode?_eq_some_iff`).

The machine is followed through one character.  The state that a first octet leads to says
which octets bring the character to its end (`Partial.Followed`), and with these the octets
seen are the encoding of what the state spells (`Partial.Spells`).  So no piece is a
character but by its own encoding (`piecesFrom_honest`), and no encoding is cut (`piecesFrom_char`).
-/
import ListExpansion.Text.Utf8

namespace ListExpansion.Utf8

set_option autoImplicit false

/-! ## The encoding of a code point, by its length -/

section Encoding

variable {v : Nat} {a b c d : UInt8}

theorem toNat_char (valid : v.isValidChar) : (Char.ofNat v).toNat = v := by
  rw [Char.ofNat, dif_pos valid]
  rfl

theorem encode_one (most : a.toNat < 0x80) :
    String.utf8EncodeChar (Char.ofNat a.toNat) = [a] := by
  have same : (Char.ofNat a.toNat).toNat = a.toNat := toNat_char (.inl (by omega))
  simp only [String.utf8EncodeChar, Char.toNat_val, same, UInt8.ofNat_toNat]
  rw [if_pos (by omega)]

theorem encode_two (least : 0x80 ≤ v) (most : v < 0x800) (first : a.toNat = v / 64 + 0xC0)
    (second : b.toNat = v % 64 + 0x80) :
    String.utf8EncodeChar (Char.ofNat v) = [a, b] := by
  have same : (Char.ofNat v).toNat = v := toNat_char (.inl (by omega))
  have reads : v / 64 % 32 + 192 = a.toNat ∧ v % 64 + 128 = b.toNat := by omega
  simp only [String.utf8EncodeChar, Char.toNat_val, same, reads, UInt8.ofNat_toNat]
  rw [if_neg (by omega), if_pos (by omega)]

theorem encode_three (least : 0x800 ≤ v) (most : v < 0x10000)
    (noSurrogate : v < 0xD800 ∨ 0xDFFF < v) (first : a.toNat = v / 4096 + 0xE0)
    (second : b.toNat = v / 64 % 64 + 0x80) (third : c.toNat = v % 64 + 0x80) :
    String.utf8EncodeChar (Char.ofNat v) = [a, b, c] := by
  have same : (Char.ofNat v).toNat = v :=
    toNat_char (noSurrogate.imp id fun above => ⟨above, by omega⟩)
  have reads : v / 4096 % 16 + 224 = a.toNat ∧ v / 64 % 64 + 128 = b.toNat ∧
      v % 64 + 128 = c.toNat := by omega
  simp only [String.utf8EncodeChar, Char.toNat_val, same, reads, UInt8.ofNat_toNat]
  rw [if_neg (by omega), if_neg (by omega), if_pos (by omega)]

theorem encode_four (least : 0x10000 ≤ v) (most : v < 0x110000)
    (first : a.toNat = v / 262144 + 0xF0) (second : b.toNat = v / 4096 % 64 + 0x80)
    (third : c.toNat = v / 64 % 64 + 0x80) (fourth : d.toNat = v % 64 + 0x80) :
    String.utf8EncodeChar (Char.ofNat v) = [a, b, c, d] := by
  have same : (Char.ofNat v).toNat = v := toNat_char (.inr ⟨by omega, most⟩)
  have reads : v / 262144 % 8 + 240 = a.toNat ∧ v / 4096 % 64 + 128 = b.toNat ∧
      v / 64 % 64 + 128 = c.toNat ∧ v % 64 + 128 = d.toNat := by omega
  simp only [String.utf8EncodeChar, Char.toNat_val, same, reads, UInt8.ofNat_toNat]
  rw [if_neg (by omega), if_neg (by omega), if_neg (by omega)]

end Encoding

/-! ## One character -/

/-- The number that `octets` spell after `bits`. -/
def spelled (bits : Nat) (octets : Bytes) : Nat :=
  octets.foldl (fun bits b => bits * 64 + (b.toNat - 0x80)) bits

/-- The octet is no smaller than `low` and no greater than `high`. -/
theorem within_iff {low high b : UInt8} :
    low ≤ b ∧ b ≤ high ↔ low.toNat ≤ b.toNat ∧ b.toNat ≤ high.toNat := by
  rw [UInt8.le_iff_toNat_le, UInt8.le_iff_toNat_le]

namespace Partial

variable {p : Partial} {b : UInt8} {rest : Bytes}

/-- These octets bring the character to its end. -/
structure Followed (p : Partial) (b : UInt8) (rest : Bytes) : Prop where
  inBounds : p.low ≤ b ∧ b ≤ p.high
  owed : p.owed = rest.length + 1
  continued : ∀ octet ∈ rest, 0x80 ≤ octet ∧ octet ≤ 0xBF

/-- The state after an octet that does not end the character. -/
def next (p : Partial) (b : UInt8) : Partial :=
  ⟨p.owed - 1, 0x80, 0xBF, p.bits * 64 + (b.toNat - 0x80), p.seen ++ [b]⟩

theorem advance_next (more : 1 < p.owed) (inBounds : p.low ≤ b ∧ b ≤ p.high) :
    advance (some p) b = ([], some (p.next b)) := by
  simp only [advance, if_pos inBounds, if_neg (Nat.not_le.2 more)]
  rfl

theorem advance_last (last : p.owed ≤ 1) (inBounds : p.low ≤ b ∧ b ≤ p.high) :
    advance (some p) b = ([.char (Char.ofNat (spelled p.bits [b])) (p.seen ++ [b])], none) := by
  simp only [advance, if_pos inBounds, if_pos last]
  rfl

theorem followed_next {c : UInt8} (more : 1 < p.owed) (inBounds : p.low ≤ b ∧ b ≤ p.high) :
    (p.next b).Followed c rest ↔ p.Followed b (c :: rest) := by
  have fewer : (p.next b).owed = p.owed - 1 := rfl
  constructor
  · intro followed
    refine ⟨inBounds, ?_, ?_⟩
    · have owed := followed.owed
      rw [List.length_cons]
      omega
    · intro octet member
      rcases List.mem_cons.1 member with rfl | later
      · exact followed.inBounds
      · exact followed.continued octet later
  · intro followed
    refine ⟨followed.continued c List.mem_cons_self, ?_,
      fun octet later => followed.continued octet (List.mem_cons_of_mem c later)⟩
    have owed := followed.owed
    rw [List.length_cons] at owed
    omega

/-- Whatever brings the character to its end makes the octets seen its encoding. -/
structure Spells (p : Partial) : Prop where
  owes : 0 < p.owed
  encodes : ∀ b rest, p.Followed b rest →
    String.utf8EncodeChar (Char.ofNat (spelled p.bits (b :: rest))) = p.seen ++ b :: rest

theorem spells_next (good : p.Spells) (more : 1 < p.owed)
    (inBounds : p.low ≤ b ∧ b ≤ p.high) : (p.next b).Spells where
  owes := Nat.sub_pos_of_lt more
  encodes c rest followed := by
    have whole := good.encodes b (c :: rest) ((followed_next more inBounds).1 followed)
    simpa [next, spelled] using whole

/-! A first octet owes one, two or three more. -/

theorem spells_one (least : 0xC2 ≤ b.toNat) (most : b.toNat < 0xE0) :
    Spells ⟨1, 0x80, 0xBF, b.toNat - 0xC0, [b]⟩ where
  owes := Nat.one_pos
  encodes c rest followed := by
    obtain ⟨inBounds, owed, -⟩ := followed
    obtain rfl : rest = [] := List.eq_nil_of_length_eq_zero (by simpa using owed.symm)
    have bounds : 0x80 ≤ c.toNat ∧ c.toNat ≤ 0xBF := within_iff.1 inBounds
    simp only [spelled, List.foldl_cons, List.foldl_nil, List.singleton_append]
    exact encode_two (by omega) (by omega) (by omega) (by omega)

/-- `narrow` keeps out the overlong forms and the surrogates. -/
theorem spells_two {low high : UInt8} {bits : Nat} (first : b.toNat = bits + 0xE0)
    (most : bits < 0x10) (within : 0x80 ≤ low.toNat ∧ high.toNat ≤ 0xBF)
    (narrow : ∀ n, low.toNat ≤ n → n ≤ high.toNat → 0x20 ≤ bits * 64 + (n - 0x80) ∧
      (bits * 64 + (n - 0x80) < 0x360 ∨ 0x380 ≤ bits * 64 + (n - 0x80))) :
    Spells ⟨2, low, high, bits, [b]⟩ where
  owes := Nat.two_pos
  encodes c rest followed := by
    obtain ⟨inBounds, owed, continued⟩ := followed
    obtain ⟨d, rfl⟩ : ∃ d, rest = [d] := List.length_eq_one_iff.1 (by simpa using owed.symm)
    have bounds : low.toNat ≤ c.toNat ∧ c.toNat ≤ high.toNat := within_iff.1 inBounds
    have last : 0x80 ≤ d.toNat ∧ d.toNat ≤ 0xBF := within_iff.1 (continued d (by simp))
    have above := narrow c.toNat bounds.1 bounds.2
    simp only [spelled, List.foldl_cons, List.foldl_nil, List.singleton_append]
    exact encode_three (by omega) (by omega) (by omega) (by omega) (by omega) (by omega)

/-- `narrow` keeps out the overlong forms and what is above U+10FFFF. -/
theorem spells_three {low high : UInt8} {bits : Nat} (first : b.toNat = bits + 0xF0)
    (within : 0x80 ≤ low.toNat ∧ high.toNat ≤ 0xBF)
    (narrow : ∀ n, low.toNat ≤ n → n ≤ high.toNat →
      0x10 ≤ bits * 64 + (n - 0x80) ∧ bits * 64 + (n - 0x80) < 0x110) :
    Spells ⟨3, low, high, bits, [b]⟩ where
  owes := Nat.zero_lt_succ 2
  encodes c rest followed := by
    obtain ⟨inBounds, owed, continued⟩ := followed
    obtain ⟨d, e, rfl⟩ : ∃ d e, rest = [d, e] :=
      match rest, owed with
      | [d, e], _ => ⟨d, e, rfl⟩
    have bounds : low.toNat ≤ c.toNat ∧ c.toNat ≤ high.toNat := within_iff.1 inBounds
    have third : 0x80 ≤ d.toNat ∧ d.toNat ≤ 0xBF := within_iff.1 (continued d (by simp))
    have last : 0x80 ≤ e.toNat ∧ e.toNat ≤ 0xBF := within_iff.1 (continued e (by simp))
    have above := narrow c.toNat bounds.1 bounds.2
    simp only [spelled, List.foldl_cons, List.foldl_nil, List.singleton_append]
    exact encode_four (by omega) (by omega) (by omega) (by omega) (by omega) (by omega)

end Partial

/-- Every state that a first octet leads to spells. -/
theorem Opening.spells {b : UInt8} {p : Partial} (opened : Opening.of b = .inside p) :
    p.Spells := by
  unfold Opening.of at opened
  dsimp only at opened
  split at opened
  · cases opened
  split at opened
  · cases opened
  split at opened
  · cases opened
    exact Partial.spells_one (by omega) (by omega)
  split at opened
  · cases opened
    exact Partial.spells_two (by omega) (by omega) (by decide)
      (fun n low high => by simp at low high; omega)
  split at opened
  · cases opened
    exact Partial.spells_two (by omega) (by omega) (by decide)
      (fun n low high => by simp at low high; omega)
  split at opened
  · cases opened
    exact Partial.spells_two (by omega) (by omega) (by decide)
      (fun n low high => by simp at low high; omega)
  split at opened
  · cases opened
    exact Partial.spells_three (by omega) (by decide)
      (fun n low high => by simp at low high; omega)
  split at opened
  · cases opened
    exact Partial.spells_three (by omega) (by decide)
      (fun n low high => by simp at low high; omega)
  split at opened
  · cases opened
    exact Partial.spells_three (by omega) (by decide)
      (fun n low high => by simp at low high; omega)
  · cases opened

theorem Opening.encode {b : UInt8} {c : Char} (opened : Opening.of b = .complete c) :
    String.utf8EncodeChar c = [b] := by
  unfold Opening.of at opened
  dsimp only at opened
  split at opened
  · next most =>
      cases opened
      exact encode_one most
  · repeat' split at opened
    all_goals cases opened

/-! ## No character but by its encoding -/

/-- A piece is honest when it is broken or the encoding of its character. -/
def Piece.Honest : Piece → Prop
  | .char c octets => String.utf8EncodeChar c = octets
  | .broken _ => True

theorem start_honest (b : UInt8) :
    (∀ piece ∈ (start b).1, piece.Honest) ∧ ∀ p, (start b).2 = some p → p.Spells := by
  unfold start
  split
  · next c opened => simpa [Piece.Honest] using Opening.encode opened
  · next p opened => simpa using Opening.spells opened
  · simp [Piece.Honest]

theorem advance_honest {state : Option Partial} (good : ∀ p, state = some p → p.Spells)
    (b : UInt8) :
    (∀ piece ∈ (advance state b).1, piece.Honest) ∧
      ∀ p, (advance state b).2 = some p → p.Spells := by
  cases state with
  | none => exact start_honest b
  | some p =>
      have spells := good p rfl
      by_cases inBounds : p.low ≤ b ∧ b ≤ p.high
      · by_cases last : p.owed ≤ 1
        · have owes := spells.owes
          have encoded := spells.encodes b [] ⟨inBounds, by simp; omega, by simp⟩
          simpa [Partial.advance_last last inBounds, Piece.Honest] using encoded
        · have more : 1 < p.owed := by omega
          simpa [Partial.advance_next more inBounds] using Partial.spells_next spells more inBounds
      · obtain ⟨pieces, states⟩ := start_honest b
        simp only [advance, if_neg inBounds]
        exact ⟨fun piece member => (List.mem_cons.1 member).elim (fun same => same ▸ trivial)
          (pieces piece), states⟩

theorem piecesFrom_cons (state : Option Partial) (b : UInt8) (rest : Bytes) :
    piecesFrom state (b :: rest) = (advance state b).1 ++ piecesFrom (advance state b).2 rest := by
  cases state <;> rfl

theorem piecesFrom_honest {state : Option Partial} (good : ∀ p, state = some p → p.Spells)
    (octets : Bytes) : ∀ piece ∈ piecesFrom state octets, piece.Honest := by
  induction octets generalizing state with
  | nil => cases state <;> simp [piecesFrom, Piece.Honest]
  | cons b rest ih =>
      obtain ⟨pieces, states⟩ := advance_honest good b
      intro piece member
      rw [piecesFrom_cons] at member
      exact (List.mem_append.1 member).elim (pieces piece) (ih states piece)

/-! ## No encoding is cut -/

/-- Octets that bring a character to its end make it a piece. -/
theorem piecesFrom_followed {p : Partial} {b : UInt8} {rest : Bytes} (followed : p.Followed b rest)
    (octets : Bytes) :
    piecesFrom (some p) (b :: rest ++ octets) =
      .char (Char.ofNat (spelled p.bits (b :: rest))) (p.seen ++ b :: rest) ::
        piecesFrom none octets := by
  induction rest generalizing p b with
  | nil =>
      have last : p.owed ≤ 1 := Nat.le_of_eq followed.owed
      rw [List.cons_append, piecesFrom_cons, Partial.advance_last last followed.inBounds]
      rfl
  | cons c rest ih =>
      have more : 1 < p.owed := by
        have owed := followed.owed
        rw [List.length_cons] at owed
        omega
      have onward := ih ((Partial.followed_next more followed.inBounds).2 followed)
      rw [List.cons_append, piecesFrom_cons, Partial.advance_next more followed.inBounds,
        List.nil_append, onward]
      simp [Partial.next, spelled]

/-- The octet `a` starts a character that the others bring to its end, and that is of the
code point `v`. -/
def Opens (v : Nat) (a b : UInt8) (rest : Bytes) : Prop :=
  ∃ p, Opening.of a = .inside p ∧ p.Followed b rest ∧ spelled p.bits (b :: rest) = v

section Opens

variable {v : Nat} {a b c d : UInt8}

theorem opens_two (least : 0x80 ≤ v) (most : v < 0x800) (first : a.toNat = v / 64 + 0xC0)
    (second : b.toNat = v % 64 + 0x80) : Opens v a b [] := by
  refine ⟨⟨1, 0x80, 0xBF, a.toNat - 0xC0, [a]⟩, ?_, ⟨?_, rfl, by simp⟩, ?_⟩
  · simp only [Opening.of]
    rw [if_neg (by omega), if_neg (by omega), if_pos (by omega)]
  · exact within_iff.2 ⟨by simp; omega, by simp; omega⟩
  · simp only [spelled, List.foldl_cons, List.foldl_nil]
    omega

/-- The second octet is within the bounds that the first one sets. -/
theorem opening_three (least : 0x800 ≤ v) (most : v < 0x10000)
    (noSurrogate : v < 0xD800 ∨ 0xDFFF < v) (first : a.toNat = v / 4096 + 0xE0)
    (second : b.toNat = v / 64 % 64 + 0x80) :
    ∃ low high, Opening.of a = .inside ⟨2, low, high, v / 4096, [a]⟩ ∧
      low.toNat ≤ b.toNat ∧ b.toNat ≤ high.toNat := by
  have bits : v / 4096 = a.toNat - 0xE0 := by omega
  by_cases isE0 : a.toNat = 0xE0
  · exact ⟨0xA0, 0xBF, by simp [Opening.of, bits, isE0], by simp; omega, by simp; omega⟩
  · by_cases isED : a.toNat = 0xED
    · exact ⟨0x80, 0x9F, by simp [Opening.of, bits, isED], by simp; omega, by simp; omega⟩
    · refine ⟨0x80, 0xBF, ?_, by simp; omega, by simp; omega⟩
      simp only [Opening.of, bits]
      rw [if_neg (by omega), if_neg (by omega), if_neg (by omega), if_neg isE0, if_neg isED,
        if_pos (by omega)]

theorem opens_three (least : 0x800 ≤ v) (most : v < 0x10000)
    (noSurrogate : v < 0xD800 ∨ 0xDFFF < v) (first : a.toNat = v / 4096 + 0xE0)
    (second : b.toNat = v / 64 % 64 + 0x80) (third : c.toNat = v % 64 + 0x80) :
    Opens v a b [c] := by
  obtain ⟨low, high, opened, bounds⟩ := opening_three least most noSurrogate first second
  refine ⟨_, opened, ⟨within_iff.2 bounds, rfl, ?_⟩, ?_⟩
  · simp only [List.forall_mem_singleton]
    exact within_iff.2 ⟨by simp; omega, by simp; omega⟩
  · simp only [spelled, List.foldl_cons, List.foldl_nil]
    omega

theorem opening_four (least : 0x10000 ≤ v) (most : v < 0x110000)
    (first : a.toNat = v / 262144 + 0xF0) (second : b.toNat = v / 4096 % 64 + 0x80) :
    ∃ low high, Opening.of a = .inside ⟨3, low, high, v / 262144, [a]⟩ ∧
      low.toNat ≤ b.toNat ∧ b.toNat ≤ high.toNat := by
  have bits : v / 262144 = a.toNat - 0xF0 := by omega
  by_cases isF0 : a.toNat = 0xF0
  · exact ⟨0x90, 0xBF, by simp [Opening.of, bits, isF0], by simp; omega, by simp; omega⟩
  · by_cases isF4 : a.toNat = 0xF4
    · exact ⟨0x80, 0x8F, by simp [Opening.of, bits, isF4], by simp; omega, by simp; omega⟩
    · refine ⟨0x80, 0xBF, ?_, by simp; omega, by simp; omega⟩
      simp only [Opening.of, bits]
      rw [if_neg (by omega), if_neg (by omega), if_neg (by omega), if_neg (by omega),
        if_neg (by omega), if_neg (by omega), if_neg isF0, if_pos (by omega)]

theorem opens_four (least : 0x10000 ≤ v) (most : v < 0x110000)
    (first : a.toNat = v / 262144 + 0xF0) (second : b.toNat = v / 4096 % 64 + 0x80)
    (third : c.toNat = v / 64 % 64 + 0x80) (fourth : d.toNat = v % 64 + 0x80) :
    Opens v a b [c, d] := by
  obtain ⟨low, high, opened, bounds⟩ := opening_four least most first second
  refine ⟨_, opened, ⟨within_iff.2 bounds, rfl, ?_⟩, ?_⟩
  · simp only [List.forall_mem_cons, List.not_mem_nil, false_implies, implies_true, and_true]
    exact ⟨within_iff.2 ⟨by simp; omega, by simp; omega⟩,
      within_iff.2 ⟨by simp; omega, by simp; omega⟩⟩
  · simp only [spelled, List.foldl_cons, List.foldl_nil]
    omega

end Opens

theorem exists_octet (n : Nat) (fits : n < 256) : ∃ b : UInt8, b.toNat = n :=
  ⟨UInt8.ofNat n, UInt8.toNat_ofNat_of_lt fits⟩

/-- An encoding is one octet of its own or starts a character and brings it to its end. -/
theorem encode_cases (c : Char) :
    (∃ a, String.utf8EncodeChar c = [a] ∧ Opening.of a = .complete c) ∨
      ∃ a b rest, String.utf8EncodeChar c = a :: b :: rest ∧ Opens c.toNat a b rest := by
  have valid : c.toNat < 0xD800 ∨ 0xDFFF < c.toNat ∧ c.toNat < 0x110000 := c.valid
  rw [← Char.ofNat_toNat c]
  generalize c.toNat = v at valid
  rw [toNat_char valid]
  by_cases one : v < 0x80
  · obtain ⟨a, rfl⟩ := exists_octet v (by omega)
    refine .inl ⟨a, encode_one one, ?_⟩
    simp only [Opening.of]
    rw [if_pos one]
  · refine .inr ?_
    by_cases two : v < 0x800
    · obtain ⟨a, first⟩ := exists_octet (v / 64 + 0xC0) (by omega)
      obtain ⟨b, second⟩ := exists_octet (v % 64 + 0x80) (by omega)
      exact ⟨a, b, [], encode_two (by omega) two first second,
        opens_two (by omega) two first second⟩
    · by_cases three : v < 0x10000
      · obtain ⟨a, first⟩ := exists_octet (v / 4096 + 0xE0) (by omega)
        obtain ⟨b, second⟩ := exists_octet (v / 64 % 64 + 0x80) (by omega)
        obtain ⟨c, third⟩ := exists_octet (v % 64 + 0x80) (by omega)
        exact ⟨a, b, [c], encode_three (by omega) three (by omega) first second third,
          opens_three (by omega) three (by omega) first second third⟩
      · obtain ⟨a, first⟩ := exists_octet (v / 262144 + 0xF0) (by omega)
        obtain ⟨b, second⟩ := exists_octet (v / 4096 % 64 + 0x80) (by omega)
        obtain ⟨c, third⟩ := exists_octet (v / 64 % 64 + 0x80) (by omega)
        obtain ⟨d, fourth⟩ := exists_octet (v % 64 + 0x80) (by omega)
        exact ⟨a, b, [c, d], encode_four (by omega) (by omega) first second third fourth,
          opens_four (by omega) (by omega) first second third fourth⟩

theorem piecesFrom_char (c : Char) (octets : Bytes) :
    piecesFrom none (String.utf8EncodeChar c ++ octets) =
      .char c (String.utf8EncodeChar c) :: piecesFrom none octets := by
  rcases encode_cases c with ⟨a, encoded, opened⟩ | ⟨a, b, rest, encoded, p, opened, followed, code⟩
  · rw [encoded, List.singleton_append, piecesFrom_cons]
    simp [advance, start, opened]
  · have begun : advance none a = ([], some p) := by simp [advance, start, opened]
    rw [encoded, List.cons_append, piecesFrom_cons, begun, List.nil_append,
      piecesFrom_followed followed, code, Char.ofNat_toNat, Opening.seen_of_inside opened]
    rfl

/-! ## Reading undoes writing -/

theorem pieces_ofText (text : String) :
    pieces (Bytes.ofText text) =
      text.toList.map fun c => .char c (String.utf8EncodeChar c) := by
  unfold pieces Bytes.ofText
  induction text.toList with
  | nil => rfl
  | cons c rest ih => rw [List.flatMap_cons, piecesFrom_char, ih, List.map_cons]

/-- A reader sees a text as it was written. -/
theorem lossy_ofText (text : String) : lossy (Bytes.ofText text) = text := by
  rw [lossy, pieces_ofText, List.map_map]
  simp [Function.comp_def, Piece.shown]

theorem mapM_char? {cut : List Piece} (honest : ∀ piece ∈ cut, piece.Honest) {chars : List Char}
    (read : cut.mapM Piece.char? = some chars) :
    cut.flatMap Piece.octets = chars.flatMap String.utf8EncodeChar := by
  induction cut generalizing chars with
  | nil =>
      obtain rfl : chars = [] := by simpa using read.symm
      rfl
  | cons piece cut ih =>
      cases piece with
      | broken octets => simp [Piece.char?] at read
      | char c octets =>
          obtain ⟨rest, readRest, rfl⟩ : ∃ rest, cut.mapM Piece.char? = some rest ∧
              c :: rest = chars := by
            simpa [List.mapM_cons, Piece.char?, Option.bind_eq_some_iff] using read
          have here : String.utf8EncodeChar c = octets := honest _ List.mem_cons_self
          rw [List.flatMap_cons, List.flatMap_cons, here,
            ih (fun piece member => honest piece (List.mem_cons_of_mem _ member)) readRest]
          rfl

/-- **A text is read from the octets that are written for it, and from no others.** -/
theorem decode?_eq_some_iff (octets : Bytes) (text : String) :
    decode? octets = some text ↔ Bytes.ofText text = octets := by
  constructor
  · intro decoded
    obtain ⟨chars, read, rfl⟩ := Option.map_eq_some_iff.1 decoded
    have honest := @piecesFrom_honest none (fun _ there => nomatch there) octets
    have whole := mapM_char? honest read
    rw [Bytes.ofText, String.toList_ofList, ← whole]
    exact pieces_octets octets
  · rintro rfl
    rw [decode?, pieces_ofText]
    have read (chars : List Char) : (chars.map fun c =>
        Piece.char c (String.utf8EncodeChar c)).mapM Piece.char? = some chars := by
      induction chars with
      | nil => rfl
      | cons c rest ih => simp [List.mapM_cons, Piece.char?, ih]
    rw [read, Option.map_some, String.ofList_toList]

/-- No two texts are written alike. -/
theorem ofText_injective {one other : String} (same : Bytes.ofText one = Bytes.ofText other) :
    one = other := by
  have read := (decode?_eq_some_iff (Bytes.ofText other) one).2 same
  rw [(decode?_eq_some_iff (Bytes.ofText other) other).2 rfl] at read
  exact (Option.some.inj read).symm

end ListExpansion.Utf8
