/-
# ListExpansion.DomainName.Form -- the characters of domain names

A character may drop out of a domain name, be in it as it is, stand for others, or
not be allowed at all (`usualForm?`).  Characters that nothing is known about are not
allowed, nor are those for private use, and neither is a character that stands for a
full stop together with something else, or describes how another is built.
-/
import ListExpansion.DomainName.Ideographs
import ListExpansion.DomainName.Letters
import ListExpansion.DomainName.Sequences
import ListExpansion.Text.Recent
import ListExpansion.Text.Unprintable

namespace ListExpansion.DomainName

set_option autoImplicit false

/-- Characters that drop out. -/
def ignoredRanges : List (Nat × Nat) :=
  [(0xAD, 0xAD), (0x34F, 0x34F), (0x115F, 0x1160), (0x17B4, 0x17B5), (0x180B, 0x180F),
   (0x200B, 0x200B), (0x2060, 0x2064), (0x206A, 0x206F), (0x3164, 0x3164), (0xFE00, 0xFE0F),
   (0xFEFF, 0xFEFF), (0xFFA0, 0xFFA0), (0x1BCA0, 0x1BCA3), (0x1D173, 0x1D17A), (0xE0100, 0xE01EF)]

/-- Visible characters that are not allowed. -/
def disallowedRanges : List (Nat × Nat) :=
  [(0x2024, 0x2026), (0x2488, 0x249B), (0x2FF0, 0x2FFF), (0x31EF, 0x31EF), (0x33C2, 0x33C2),
   (0x33C7, 0x33C7), (0x33D8, 0x33D8), (0xFE12, 0xFE12), (0xFE19, 0xFE19), (0xFE30, 0xFE30),
   (0xFE52, 0xFE52), (0xFFFC, 0xFFFD), (0x1F100, 0x1F100)]

/-- The non-joiner and the joiner, which only a check of what surrounds them refuses. -/
def isJoiner (c : Char) : Bool := c.toNat == 0x200C || c.toNat == 0x200D

/-- The member of a run that belongs to `v`. -/
def inRuns? {α : Type} (runs : List (Nat × List α)) (v : Nat) : Option α :=
  runs.findSome? fun (first, members) => if first ≤ v then members[v - first]? else none

/-- The single character that a character stands for. -/
def letter? (v : Nat) : Option Nat :=
  match shiftedRanges.find? fun (first, last, _) => first ≤ v ∧ v ≤ last with
  | some (first, _, form) => some (form + (v - first))
  | none =>
      if alternatingRanges.any fun (first, last) =>
          first ≤ v && v ≤ last && (v - first) % 2 == 0 then
        some (v + 1)
      else
        match mergedRanges.find? fun (first, last, _) => first ≤ v ∧ v ≤ last with
        | some (_, _, form) => some form
        | none => (inRuns? letterRuns v).or (inRuns? ideographRuns v)

/-- The characters that a character stands for, several or one. -/
def standsFor? (v : Nat) : Option (List Nat) :=
  match letter? v with
  | some form => some [form]
  | none => (inRuns? signRuns v).or ((inRuns? squareRuns v).or (inRuns? ligatureRuns v))

def isDisallowed (c : Char) : Bool :=
  Text.inRanges disallowedRanges c.toNat ||
    (Text.inRanges Text.unprintableRanges c.toNat && !isJoiner c && !Text.isRecent c)

/-- What a character is in a domain name; nothing for one that is not allowed. -/
def usualForm? (c : Char) : Option (List Char) :=
  if Text.inRanges ignoredRanges c.toNat then some []
  else
    match standsFor? c.toNat with
    | some forms => some (forms.map Char.ofNat)
    | none => if isDisallowed c then none else some [c]

/-- Whether a character is in domain names as it is. -/
def isUsual (c : Char) : Bool := usualForm? c == some [c]

end ListExpansion.DomainName
