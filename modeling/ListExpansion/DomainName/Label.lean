/-
# ListExpansion.DomainName.Label -- the parts of a domain name

What stands between two points of a domain name is a label.  `shown?` gives the
characters that a label shows: itself, or what it is the ASCII writing of.  A label
does not begin with a mark, and joiners stand in it only where they change how
letters look (`isWellFormed`).

If anything in a domain name is written from right to left, each of its labels has
to keep to one direction, so that labels and points are not shown out of order
(`keepsDirection`).
-/
import ListExpansion.DomainName.Form
import ListExpansion.DomainName.Punycode
import ListExpansion.Text.Composition
import ListExpansion.Text.Direction
import ListExpansion.Text.Joining

namespace ListExpansion.DomainName

set_option autoImplicit false

def isAscii (label : List Char) : Bool := label.all fun c => c.toNat < 0x80

/-! ## The ASCII writing -/

/-- What a label begins with that is the ASCII writing of another. -/
def asciiMark : List Char := "xn--".toList

/-- How long the ASCII writing of a label may be behind its mark. -/
def longestWriting : Nat := 2000

/-- How many characters a label may have that has to be written in ASCII. -/
def longestWritten : Nat := 1000

/-- The label that `text` is the ASCII writing of.  It needs one, its characters are in
their usual form, and it does not look like the ASCII writing of yet another. -/
def written? (text : List Char) : Option (List Char) :=
  if text.length > longestWriting then none
  else
    match Punycode.decode? text with
    | some label =>
        if !isAscii label && label.all isUsual && Text.composed label == label &&
            !asciiMark.isPrefixOf label then
          some label
        else none
    | none => none

/-- The characters that a label shows. -/
def shown? (label : List Char) : Option (List Char) :=
  if asciiMark.isPrefixOf label then
    if isAscii label then written? (label.drop asciiMark.length) else none
  else if !isAscii label && label.length > longestWritten then none
  else some label

/-! ## Marks and joiners -/

/-- Whether the nearest letter of `text`, marks passed over, has the property. -/
def nearestLetter (p : Char → Bool) (text : List Char) : Bool :=
  ((text.dropWhile Text.isTransparent).head?.map p).getD false

/-- Whether a joiner may stand behind `before`, which is reversed, and before `after`:
a virama comes right before it, or a non-joiner parts letters that would be joined. -/
def joinerInPlace (c : Char) (before after : List Char) : Bool :=
  (before.head?.map Text.isVirama).getD false ||
    (c.toNat == 0x200C && nearestLetter Text.joinsNext before &&
      nearestLetter Text.joinsPrevious after)

/-- Whether all joiners are in place; `before` is what was passed, reversed. -/
def joinersInPlace (before : List Char) : List Char → Bool
  | [] => true
  | c :: after =>
      (!isJoiner c || joinerInPlace c before after) && joinersInPlace (c :: before) after

/-- What a shown label has to satisfy for itself. -/
def isWellFormed (label : List Char) : Bool :=
  !(label.head?.map Text.isMark).getD false && joinersInPlace [] label

/-! ## Direction -/

/-- Whether a character makes the whole domain name one with two directions. -/
def turnsBack (c : Char) : Bool :=
  match Text.Direction.of c with
  | .rightToLeft | .arabicDigit => true
  | _ => false

/-- The direction of a label's last character that is no mark. -/
def lastDirection? (label : List Char) : Option Text.Direction :=
  (label.reverse.map Text.Direction.of).find? (· ≠ .nonspacing)

/-- Whether a label keeps to one direction.  From left to right it has nothing of the
other direction in it, and at its end a letter or a digit.  From right to left it has no
letters of the other direction, digits of one kind only, and at its end a letter or a
digit as well. -/
def keepsDirection (label : List Char) : Bool :=
  let directions := label.map Text.Direction.of
  match directions.head? with
  | none => true
  | some .leftToRight =>
      !label.any turnsBack &&
        [some .leftToRight, some .europeanDigit].contains (lastDirection? label)
  | some .rightToLeft =>
      !directions.contains .leftToRight &&
        !(directions.contains .europeanDigit && directions.contains .arabicDigit) &&
        [some .rightToLeft, some .europeanDigit, some .arabicDigit].contains (lastDirection? label)
  | some _ => false

end ListExpansion.DomainName
