/-
# ListExpansion.Template -- putting an address into a query

A template is text with the placeholders `%u` (the whole address), `%d` (its
domain) and `%n` (its local part).  Substitution is one pass from the left: what
is put in is not read again, and a `%` that starts no placeholder stands for
itself.

`tokens` is the template cut into literals and placeholders, and substitution is
the concatenation of what the tokens stand for.
-/
import ListExpansion.Address.Parts

namespace ListExpansion.Template

set_option autoImplicit false

inductive Placeholder where
  | address
  | domain
  | localPart
  deriving DecidableEq, Repr

/-- The placeholder that `%` and this octet make. -/
def Placeholder.ofLetter? (letter : UInt8) : Option Placeholder :=
  if letter = 0x75 then some .address
  else if letter = 0x64 then some .domain
  else if letter = 0x6E then some .localPart
  else none

inductive Token where
  | literal (octet : UInt8)
  | placeholder (which : Placeholder)
  deriving DecidableEq, Repr

/-- The octet of `%`. -/
def percent : UInt8 := 0x25

/-- Greedy from the left. -/
def tokens : Bytes → List Token
  | [] => []
  | [b] => [.literal b]
  | b :: letter :: rest =>
      if b = percent then
        match Placeholder.ofLetter? letter with
        | some which => .placeholder which :: tokens rest
        | none => .literal b :: tokens (letter :: rest)
      else .literal b :: tokens (letter :: rest)

def Placeholder.value (parts : AddressParts) : Placeholder → Bytes
  | .address => parts.full
  | .domain => parts.domain
  | .localPart => parts.localPart

def Token.value (parts : AddressParts) : Token → Bytes
  | .literal octet => [octet]
  | .placeholder which => which.value parts

/-- `template` with the parts of `address` in place of its placeholders. -/
def substitute (template : String) (address : Bytes) : Bytes :=
  let parts := AddressParts.ofAddress address
  (tokens (Bytes.ofText template)).flatMap (Token.value parts)

end ListExpansion.Template
