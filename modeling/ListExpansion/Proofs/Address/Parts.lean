/-
# ListExpansion.Proofs.Address.Parts -- an address and its parts

`AddressParts.Splits` says by the first `@` what the parts of an address are; taking it
apart finds them (`ofAddress_splits`).  Either part may be empty though the address is not
(`Splits.localPart_eq_nil_iff`, `Splits.domain_eq_nil_iff`).  The sign is an encoding of its
own, so the parts of an address that is text are text (`Splits.isText`).
-/
import ListExpansion.Address.Parts
import ListExpansion.Proofs.Text.Boundary

namespace ListExpansion

set_option autoImplicit false

namespace Bytes

variable {separator : UInt8} {octets before : Bytes}

theorem cutFirst_of_not_mem (free : separator ∉ octets) : cutFirst separator octets = none := by
  induction octets with
  | nil => rfl
  | cons b rest ih =>
      obtain ⟨other, free⟩ := List.ne_and_not_mem_of_not_mem_cons free
      rw [cutFirst, if_neg (Ne.symm other), ih free, Option.map_none]

theorem cutFirst_append (free : separator ∉ before) (after : Bytes) :
    cutFirst separator (before ++ separator :: after) = some (before, after) := by
  induction before with
  | nil => rw [List.nil_append, cutFirst, if_pos rfl]
  | cons b rest ih =>
      obtain ⟨other, free⟩ := List.ne_and_not_mem_of_not_mem_cons free
      rw [List.cons_append, cutFirst, if_neg (Ne.symm other), ih free, Option.map_some]

end Bytes

namespace AddressParts

/-- These are the parts of `address`: the local part is all before the first `@`. -/
structure Splits (parts : AddressParts) (address : Bytes) : Prop where
  full : parts.full = address
  free : atSign ∉ parts.localPart
  whole : atSign ∉ address → parts.localPart = address ∧ parts.domain = []
  joined : atSign ∈ address → address = parts.localPart ++ atSign :: parts.domain

theorem ofAddress_splits (address : Bytes) : (ofAddress address).Splits address := by
  by_cases found : atSign ∈ address
  · obtain ⟨localPart, domain, rfl, free⟩ := List.eq_append_cons_of_mem found
    rw [ofAddress, Bytes.cutFirst_append free]
    exact ⟨rfl, free, fun absent => absurd found absent, fun _ => rfl⟩
  · rw [ofAddress, Bytes.cutFirst_of_not_mem found]
    exact ⟨rfl, found, fun _ => ⟨rfl, rfl⟩, fun present => absurd present found⟩

namespace Splits

variable {parts : AddressParts} {address : Bytes} (splits : parts.Splits address)

include splits

/-- Nothing stands before the first `@` just when the address begins with it. -/
theorem localPart_eq_nil_iff (given : address ≠ []) :
    parts.localPart = [] ↔ address.head? = some atSign := by
  by_cases found : atSign ∈ address
  · have joined := splits.joined found
    constructor
    · intro void
      rw [joined, void]
      rfl
    · intro begins
      -- The local part has no `@`, so what the address begins with is not of it.
      cases front : parts.localPart with
      | nil => rfl
      | cons b rest =>
          rw [joined, front] at begins
          exact absurd (front ▸ Option.some.inj begins ▸ List.mem_cons_self) splits.free
  · obtain ⟨whole, -⟩ := splits.whole found
    rw [whole]
    refine ⟨fun void => absurd void given, fun begins => ?_⟩
    exact absurd (List.mem_of_mem_head? begins) found

/-- Nothing stands after the first `@` just when there is none or the address ends with it. -/
theorem domain_eq_nil_iff :
    parts.domain = [] ↔
      atSign ∉ address ∨ ∃ before, atSign ∉ before ∧ address = before ++ [atSign] := by
  by_cases found : atSign ∈ address
  · have joined := splits.joined found
    constructor
    · intro void
      exact .inr ⟨parts.localPart, splits.free, by rw [← void]; exact joined⟩
    · rintro (absent | ⟨before, free, ends⟩)
      · exact absurd found absent
      · have cut := Bytes.cutFirst_append splits.free parts.domain
        rw [← joined, ends, Bytes.cutFirst_append free] at cut
        exact (congrArg Prod.snd (Option.some.inj cut)).symm
  · exact ⟨fun _ => .inl found, fun _ => (splits.whole found).2⟩

end Splits

theorem encode_atSign : String.utf8EncodeChar '@' = [atSign] := by decide

section Text

variable {parts : AddressParts} {address : Bytes}

/-- The parts of an address that is text are text. -/
theorem Splits.isText (splits : parts.Splits address) (text : Utf8.IsText address) :
    Utf8.IsText parts.localPart ∧ Utf8.IsText parts.domain := by
  by_cases found : atSign ∈ address
  · rw [splits.joined found, ← List.singleton_append, ← encode_atSign,
      Utf8.isText_append_iff fun _ => Utf8.starts_encode, Utf8.isText_encode_append] at text
    exact text
  · obtain ⟨whole, none_⟩ := splits.whole found
    rw [whole, none_]
    exact ⟨text, Utf8.isText_nil⟩

end Text

end AddressParts

end ListExpansion
