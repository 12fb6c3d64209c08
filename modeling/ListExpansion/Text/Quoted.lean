/-
# ListExpansion.Text.Quoted -- values as a reader of the log sees them

A quoted text stands between double quotes on one line: the quote, the backslash
and the four common controls have two-character escapes, and every other
character that would not show (`isShown`) is written by its code point.  Records,
options and lists are written around quoted texts in one fixed form.
-/
import ListExpansion.Text.Unprintable
import ListExpansion.Text.Utf8

namespace ListExpansion.Text

set_option autoImplicit false

/-- The hexadecimal digits of `n`, in lower case and without leading zeros. -/
def hex (n : Nat) : List Char :=
  Nat.toDigits 16 n

/-- One character inside a quoted text. -/
def escape (c : Char) : List Char :=
  if c = '"' then ['\\', '"']
  else if c = '\\' then ['\\', '\\']
  else if c = '\n' then ['\\', 'n']
  else if c = '\r' then ['\\', 'r']
  else if c = '\t' then ['\\', 't']
  else if c.toNat = 0 then ['\\', '0']
  else if isShown c then [c]
  else ['\\', 'u', '\x7b'] ++ hex c.toNat ++ ['\x7d']

def quoteChars (chars : List Char) : String :=
  String.ofList ('"' :: chars ++ ['"'])

/-- `text` between double quotes. -/
def quote (text : String) : String :=
  quoteChars (text.toList.flatMap escape)

/-- The two upper-case hexadecimal digits of an octet. -/
def hexOctet (b : UInt8) : List Char :=
  let digits := (Nat.toDigits 16 b.toNat).map Char.toUpper
  if digits.length < 2 then '0' :: digits else digits

/-- A piece of octets inside a quoted text: octets of no character are written
by their values, so that different octets look different. -/
def escapePiece : Utf8.Piece → List Char
  | .char c _ => escape c
  | .broken octets => octets.flatMap fun b => ['\\', 'x'] ++ hexOctet b

/-- Octets between double quotes. -/
def quoteOctets (octets : Bytes) : String :=
  quoteChars ((Utf8.pieces octets).flatMap escapePiece)

/-- `Name { field: value, … }`, or the name alone when there is no field. -/
def record (name : String) (fields : List (String × String)) : String :=
  if fields.isEmpty then name
  else
    let body := ", ".intercalate (fields.map fun (field, value) => field ++ ": " ++ value)
    name ++ " \x7b " ++ body ++ " \x7d"

/-- `Some(value)` or `None`. -/
def option (value : Option String) : String :=
  match value with
  | some text => "Some(" ++ text ++ ")"
  | none => "None"

/-- `[a, b, …]`. -/
def listing (items : List String) : String :=
  "[" ++ ", ".intercalate items ++ "]"

end ListExpansion.Text
