/-
# ListExpansion.Text.Recent -- what Unicode gained after its version 17

The large tables of this library are those of Unicode 17.  Names and domain names go
by a later version; the tables here hold the difference.
-/
import ListExpansion.Text.Blank

namespace ListExpansion.Text

set_option autoImplicit false

/-- Letters, ideographs and numbers that are letters. -/
def recentLetterRanges : List (Nat × Nat) :=
  [(0x558, 0x558), (0x58B, 0x58B), (0x209D, 0x209F), (0xA7E2, 0xA7E2), (0xAB6C, 0xAB6C),
   (0x107BB, 0x107BF), (0x10ED9, 0x10EDA), (0x11DF1, 0x11DF1), (0x1246F, 0x1246F),
   (0x12550, 0x12686), (0x18CD6, 0x18CD6), (0x18D1F, 0x18D1F), (0x18E00, 0x191A0),
   (0x1B123, 0x1B123), (0x1B168, 0x1B168), (0x1D6A6, 0x1D6A6), (0x1DF1F, 0x1DF24),
   (0x1DF2B, 0x1DF81), (0x1DFCD, 0x1DFFF), (0x2B81E, 0x2B81E), (0x3D000, 0x3FC3F)]

/-- Marks. -/
def recentMarkRanges : List (Nat × Nat) :=
  [(0x5C8, 0x5C9), (0xB53, 0xB54), (0x1ADE, 0x1ADE), (0x10ECB, 0x10ECC), (0x1D127, 0x1D127),
   (0x1D250, 0x1D250), (0x1D280, 0x1D280)]

/-- Signs. -/
def recentSignRanges : List (Nat × Nat) :=
  [(0x1D251, 0x1D27F), (0x1D281, 0x1D28F), (0x1DB00, 0x1DB2F)]

def isRecentLetter (c : Char) : Bool := inRanges recentLetterRanges c.toNat

def isRecentMark (c : Char) : Bool := inRanges recentMarkRanges c.toNat

def isRecent (c : Char) : Bool :=
  isRecentLetter c || isRecentMark c || inRanges recentSignRanges c.toNat

end ListExpansion.Text
