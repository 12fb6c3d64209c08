/-
# ListExpansion.Host.Address -- addresses of the Internet protocols as text

IPv4 addresses are four decimal numbers without leading zeros; IPv6 addresses are
eight groups of hexadecimal digits, a run of which may be left out as `::` and the
last two of which may be an IPv4 address.

Hosts know IPv4 addresses also in a looser form (`parseLooseV4?`): up to four
numbers in any of three bases, of which the last takes the place of all that are
missing.
-/
import ListExpansion.Bytes

namespace ListExpansion

set_option autoImplicit false

inductive IpAddress where
  | v4 (value : Nat)
  | v6 (value : Nat)
  deriving DecidableEq, Repr

namespace IpAddress

/-- Every address of the host at once. -/
def isWildcard : IpAddress → Bool
  | .v4 value => value == 0
  | .v6 value => value == 0

/-- The pieces between separators. -/
def splitChars (separator : Char) : List Char → List (List Char)
  | [] => [[]]
  | c :: rest =>
      if c = separator then [] :: splitChars separator rest
      else
        match splitChars separator rest with
        | [] => [[c]]
        | piece :: pieces => (c :: piece) :: pieces

def decimalOctet? (digits : List Char) : Option Nat :=
  if digits.isEmpty || digits.length > 3 || !digits.all Char.isDigit then none
  else if digits.length > 1 ∧ digits.head? = some '0' then none
  else
    let value := digits.foldl (fun value c => value * 10 + (c.toNat - '0'.toNat)) 0
    if value ≤ 255 then some value else none

def parseV4? (text : List Char) : Option Nat :=
  match (splitChars '.' text).mapM decimalOctet? with
  | some [a, b, c, d] => some (((a * 256 + b) * 256 + c) * 256 + d)
  | _ => none

def hexValue? (c : Char) : Option Nat :=
  if c.isDigit then some (c.toNat - '0'.toNat)
  else if 'a' ≤ c.toLower ∧ c.toLower ≤ 'f' then some (c.toLower.toNat - 'a'.toNat + 10)
  else none

def group? (digits : List Char) : Option Nat :=
  if digits.isEmpty || digits.length > 4 then none
  else digits.foldlM (fun value c => (hexValue? c).map fun digit => value * 16 + digit) 0

/-- Groups between colons; the last may be an IPv4 address, which makes two. -/
def groups? : List (List Char) → Option (List Nat)
  | [] => some []
  | [last] =>
      match group? last with
      | some value => some [value]
      | none => (parseV4? last).map fun value => [value / 65536, value % 65536]
  | first :: rest =>
      match group? first, groups? rest with
      | some value, some values => some (value :: values)
      | _, _ => none

/-- The groups of a text that may be empty. -/
def someGroups? (text : List Char) : Option (List Nat) :=
  if text.isEmpty then some [] else groups? (splitChars ':' text)

/-- The text before and after the first `::`. -/
def cutAtGap : List Char → Option (List Char × List Char)
  | ':' :: ':' :: rest => some ([], rest)
  | c :: rest => (cutAtGap rest).map fun (before, after) => (c :: before, after)
  | [] => none

def ofGroups (groups : List Nat) : Nat :=
  groups.foldl (fun value group => value * 65536 + group) 0

def parseV6? (text : List Char) : Option Nat :=
  match cutAtGap text with
  | none =>
      match groups? (splitChars ':' text) with
      | some groups => if groups.length = 8 then some (ofGroups groups) else none
      | none => none
  | some (before, after) =>
      if before.contains '.' then none
      else
        match someGroups? before, someGroups? after with
        | some left, some right =>
            if left.length + right.length ≤ 7 then
              let gap := List.replicate (8 - left.length - right.length) 0
              some (ofGroups (left ++ gap ++ right))
            else none
        | _, _ => none

/-! ## The looser form -/

/-- The number that digits of a base stand for; there is at least one of them. -/
def inBase? (base : Nat) (digits : List Char) : Option Nat :=
  if digits.isEmpty then none
  else
    digits.foldlM
      (fun value c =>
        match hexValue? c with
        | some digit => if digit < base then some (value * base + digit) else none
        | none => none)
      0

/-- A number in base 16 behind `0x`, in base 8 behind `0` and in base 10 otherwise. -/
def looseNumber? : List Char → Option Nat
  | '0' :: x :: rest => if x = 'x' ∨ x = 'X' then inBase? 16 rest else inBase? 8 (x :: rest)
  | digits => inBase? 10 digits

/-- The address of up to four numbers.  All but the last are octets. -/
def ofLooseNumbers? : List Nat → Option Nat
  | [] => none
  | numbers@(_ :: _) =>
      let octets := numbers.dropLast
      let last := numbers.getLastD 0
      let limit := 1 <<< (8 * (4 - octets.length))
      if octets.length ≤ 3 ∧ octets.all (· ≤ 255) ∧ last < limit then
        some (octets.foldl (fun value octet => value * 256 + octet) 0 * limit + last)
      else none

def parseLooseV4? (text : List Char) : Option Nat :=
  ((splitChars '.' text).mapM looseNumber?).bind ofLooseNumbers?

def parse? (text : String) : Option IpAddress :=
  ((parseV4? text.toList).map .v4).or ((parseV6? text.toList).map .v6)

end IpAddress

end ListExpansion
