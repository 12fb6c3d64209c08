/-
# ListExpansion.DomainName.Punycode -- labels written in ASCII

A label with other characters can be written in letters, digits and hyphens of ASCII
alone: its ASCII characters come first, closed by a hyphen if there are any, and then
numbers that say which characters to insert where.  A number has digits of base 36,
the least first; how far a digit counts depends on a bias that follows the numbers
read so far.
-/

namespace ListExpansion.DomainName.Punycode

set_option autoImplicit false

def digit? (c : Char) : Option Nat :=
  if c.isDigit then some (c.toNat - '0'.toNat + 26)
  else if c.isAlpha then some (c.toLower.toNat - 'a'.toNat)
  else none

/-- From which value on a digit is not the last of its number; `place` counts in
steps of 36. -/
def threshold (bias place : Nat) : Nat :=
  if place ≤ bias then 1 else min (place - bias) 26

/-- Numbers fit 32 bits. -/
def limit : Nat := UInt32.size

/-- A number, and the text behind it, which is shorter than all of it. -/
abbrev Reading (text : List Char) : Type := Nat × { rest : List Char // rest.length < text.length }

/-- The number at the start of `text` added to `sum`, and what follows it. -/
def number? (bias : Nat) : (place weight sum : Nat) → (text : List Char) → Option (Reading text)
  | _, _, _, [] => none
  | place, weight, sum, c :: text => do
      let digit ← digit? c
      let sum := sum + digit * weight
      if limit ≤ sum then none
      else if digit < threshold bias place then return (sum, ⟨text, by simp⟩)
      else
        let weight := weight * (36 - threshold bias place)
        if limit ≤ weight then none
        else
          let (sum, ⟨rest, shorter⟩) ← number? bias (place + 36) weight sum text
          return (sum, ⟨rest, by simp only [List.length_cons]; omega⟩)

/-- A delta divided by 35 until it is small, with 36 added for each time. -/
def dampened (delta place : Nat) : Nat :=
  if 455 < delta then dampened (delta / 35) (place + 36) else place + 36 * delta / (delta + 38)
termination_by delta

/-- The bias behind a number by which the insertion went on by `delta`, when there
are `length` characters now.  The first number is larger than the others. -/
def bias (delta length : Nat) (first : Bool) : Nat :=
  let delta := if first then delta / 700 else delta / 2
  dampened (delta + delta / length) 0

/-- The label with the insertions made that `text` tells.  The last one put the
character `value` before position `index`. -/
def insertions? (currentBias value index : Nat) (label text : List Char) : Option (List Char) :=
  if text.isEmpty then some label
  else
    match number? currentBias 36 1 index text with
    | none => none
    | some (sum, ⟨rest, _⟩) =>
        let length := label.length + 1
        let value := value + sum / length
        if value.isValidChar then
          insertions? (bias (sum - index) length (index == 0)) value (sum % length + 1)
            (label.insertIdx (sum % length) (Char.ofNat value)) rest
        else none
termination_by text.length

/-- The label that `text` is the writing of. -/
def decode? (text : List Char) : Option (List Char) :=
  let reversed := text.reverse
  let numbers := (reversed.takeWhile (· ≠ '-')).reverse
  let ascii := (reversed.drop (numbers.length + 1)).reverse
  if ascii.isEmpty then insertions? 72 0x80 0 [] text else insertions? 72 0x80 0 ascii numbers

end ListExpansion.DomainName.Punycode
