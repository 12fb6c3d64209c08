/-
# ListExpansion.Text.Blank -- white space as Unicode has it

The characters with the property `White_Space` are a fixed list of ten ranges.
Values read from a configuration are trimmed by it, and a value of nothing else
counts as absent.
-/

namespace ListExpansion.Text

set_option autoImplicit false

/-- The ranges of `White_Space`, first and last code point. -/
def whiteSpaceRanges : List (Nat × Nat) :=
  [(0x9, 0xD), (0x20, 0x20), (0x85, 0x85), (0xA0, 0xA0), (0x1680, 0x1680), (0x2000, 0x200A),
   (0x2028, 0x2029), (0x202F, 0x202F), (0x205F, 0x205F), (0x3000, 0x3000)]

/-- Whether a code point lies in one of the ranges. -/
def inRanges (ranges : List (Nat × Nat)) (codePoint : Nat) : Bool :=
  ranges.any fun (first, last) => first ≤ codePoint && codePoint ≤ last

def isWhiteSpace (c : Char) : Bool :=
  inRanges whiteSpaceRanges c.toNat

/-- A list without the leading and trailing members that satisfy `p`. -/
def trimBoth {α : Type} (p : α → Bool) (items : List α) : List α :=
  (((items.dropWhile p).reverse).dropWhile p).reverse

/-- `text` without surrounding white space. -/
def trim (text : String) : String :=
  String.ofList (trimBoth isWhiteSpace text.toList)

/-- Nothing but white space, or nothing at all. -/
def isBlank (text : String) : Bool :=
  text.toList.all isWhiteSpace

/-- `text` with the letters A to Z in lower case and all else as it is. -/
def lowerAscii (text : String) : String :=
  String.ofList (text.toList.map Char.toLower)

end ListExpansion.Text
