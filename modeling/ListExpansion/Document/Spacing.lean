/-
# ListExpansion.Document.Spacing -- what stands between the words of a document

Between two words may stand white space and comments: `//` to the end of the line
and `/* … */`, which nests.  White space is the set that programming languages
use (Unicode's `Pattern_White_Space`), not the one values are trimmed by.
-/

namespace ListExpansion.Document

set_option autoImplicit false

/-- White space between words. -/
def isSpacing (c : Char) : Bool :=
  let v := c.toNat
  c == ' ' || (0x09 ≤ v && v ≤ 0x0D) || v == 0x85 || v == 0x200E || v == 0x200F || v == 0x2028 ||
    v == 0x2029

/-- Where in the spacing we are. -/
inductive Spacing where
  | between
  | line
  /-- In a comment inside `depth` others. -/
  | block (depth : Nat)

/-- What follows the spacing.  There is nothing when a comment is not closed or a
slash begins none. -/
def skipFrom : Spacing → List Char → Option (List Char)
  | .between, [] => some []
  | .between, '/' :: '/' :: rest => skipFrom .line rest
  | .between, '/' :: '*' :: rest => skipFrom (.block 0) rest
  | .between, '/' :: _ => none
  | .between, c :: rest => if isSpacing c then skipFrom .between rest else some (c :: rest)
  | .line, [] => some []
  | .line, '\n' :: rest => skipFrom .between rest
  | .line, _ :: rest => skipFrom .line rest
  | .block _, [] => none
  | .block depth, '/' :: '*' :: rest => skipFrom (.block (depth + 1)) rest
  | .block 0, '*' :: '/' :: rest => skipFrom .between rest
  | .block (depth + 1), '*' :: '/' :: rest => skipFrom (.block depth) rest
  | .block depth, _ :: rest => skipFrom (.block depth) rest

/-- What follows white space and comments. -/
def skip? (text : List Char) : Option (List Char) := skipFrom .between text

/-- A comma with spacing around it, if there is one. -/
def comma? (text : List Char) : Option (Bool × List Char) :=
  match skip? text with
  | some (',' :: rest) => (skip? rest).map fun rest => (true, rest)
  | some rest => some (false, rest)
  | none => none

end ListExpansion.Document
