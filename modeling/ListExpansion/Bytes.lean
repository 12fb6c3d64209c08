/-
# ListExpansion.Bytes -- octet strings and their order

Addresses, account names and paths are octet strings: nothing promises that they
are text.  This module fixes the one order used on them, the lexicographic order
of unsigned octets in which a proper initial part comes before what extends it
(`Bytes.compare`), and the cuts at a separator that the rest is built from.
-/

namespace ListExpansion

set_option autoImplicit false

/-- A string of octets, of any value and any length. -/
abbrev Bytes := List UInt8

namespace Bytes

/-- The octets that encode `text` in UTF-8. -/
def ofText (text : String) : Bytes :=
  text.toList.flatMap String.utf8EncodeChar

/-- Octet by octet; the shorter string comes first when one begins the other. -/
def compare : Bytes → Bytes → Ordering
  | [], [] => .eq
  | [], _ :: _ => .lt
  | _ :: _, [] => .gt
  | a :: as, b :: bs =>
      if a < b then .lt
      else if b < a then .gt
      else compare as bs

/-- `a` comes before `b`, or is `b`. -/
def precedes (a b : Bytes) : Bool :=
  compare a b != .gt

/-- The parts before and after the first `separator`, which belongs to neither. -/
def cutFirst (separator : UInt8) : Bytes → Option (Bytes × Bytes)
  | [] => none
  | b :: rest =>
      if b = separator then some ([], rest)
      else (cutFirst separator rest).map fun (before, after) => (b :: before, after)

/-- The pieces between separators; `n` separators make `n + 1` pieces. -/
def split (separator : UInt8) : Bytes → List Bytes
  | [] => [[]]
  | b :: rest =>
      if b = separator then [] :: split separator rest
      else
        match split separator rest with
        | [] => [[b]]
        | piece :: pieces => (b :: piece) :: pieces

/-- `text` without `first` at its start, if it starts so. -/
def dropLeading? : (first : Bytes) → (text : Bytes) → Option Bytes
  | [], text => some text
  | _ :: _, [] => none
  | a :: first, b :: text => if a = b then dropLeading? first text else none

/-- `text` without `last` at its end, if it ends so. -/
def dropTrailing? (last text : Bytes) : Option Bytes :=
  (dropLeading? last.reverse text.reverse).map List.reverse

end Bytes

end ListExpansion
