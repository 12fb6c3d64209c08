/-
# ListExpansion.Address.Parts -- a mail address taken apart

The local part ends at the first `@`; the domain is all that follows it, further
`@` signs included.  An address without `@` is all local part.
-/
import ListExpansion.Bytes

namespace ListExpansion

set_option autoImplicit false

/-- The octet of `@`. -/
def atSign : UInt8 := 0x40

structure AddressParts where
  full : Bytes
  localPart : Bytes
  domain : Bytes

/-- Cuts at the first `@`. -/
def AddressParts.ofAddress (address : Bytes) : AddressParts :=
  match Bytes.cutFirst atSign address with
  | some (localPart, domain) => ⟨address, localPart, domain⟩
  | none => ⟨address, address, []⟩

/-- `address` without one pair of angle brackets, if it has both. -/
def stripAngleBrackets (address : Bytes) : Bytes :=
  match Bytes.dropLeading? [0x3C] address with
  | some inner => (Bytes.dropTrailing? [0x3E] inner).getD address
  | none => address

end ListExpansion
