/-
# ListExpansion.Document.Literal -- strings and numbers in a document

Strings stand between double quotes and have escapes; raw strings have none and
are closed by as many hash signs as they are opened with.  Octets and characters
are read so that they can be passed over.

The numbers that settings take are whole and fit 64 bits (`unsigned?`).  What else
is a number (`isNumber`), and ranges between numbers (`afterRange?`), matter only for
settings that nobody knows.
-/
import ListExpansion.Bytes
import ListExpansion.Text.Utf8

namespace ListExpansion.Document

set_option autoImplicit false

/-! ## Digits -/

def hexDigit? (c : Char) : Option Nat :=
  if c.isDigit then some (c.toNat - '0'.toNat)
  else if 'a' ≤ c ∧ c ≤ 'f' then some (c.toNat - 'a'.toNat + 10)
  else if 'A' ≤ c ∧ c ≤ 'F' then some (c.toNat - 'A'.toNat + 10)
  else none

/-- The number that the digits stand for, each of them below the base. -/
def digits? (base : Nat) (digits : List Char) : Option Nat :=
  digits.foldlM
    (fun value c =>
      match hexDigit? c with
      | some digit => if digit < base then some (value * base + digit) else none
      | none => none)
    0

/-! ## Escapes -/

/-- Two hexadecimal digits, and what follows. -/
def octet? : List Char → Option (UInt8 × List Char)
  | a :: b :: rest => (digits? 16 [a, b]).map fun value => (UInt8.ofNat value, rest)
  | _ => none

/-- A character given by its octets in UTF-8, at most `limit` of them: the first
stands in `text`, each further one behind `\x`. -/
def encodedCharacter? : (limit : Nat) → Bytes → List Char → Option (List Char × List Char)
  | 0, _, _ => none
  | limit + 1, before, text =>
      match octet? text with
      | none => none
      | some (octet, rest) =>
          match Utf8.decode? (before ++ [octet]) with
          | some decoded => some (decoded.toList, rest)
          | none =>
              match rest with
              | '\\' :: 'x' :: more => encodedCharacter? limit (before ++ [octet]) more
              | _ => none

/-- A character given by its code point between braces, in up to six digits. -/
def codePoint? : List Char → Option (List Char × List Char)
  | '\x7b' :: text =>
      let digits := text.takeWhile (· ≠ '\x7d')
      if 1 ≤ digits.length ∧ digits.length ≤ 6 then
        match digits? 16 digits, text.drop digits.length with
        | some value, _ :: rest =>
            if value.isValidChar then some ([Char.ofNat value], rest) else none
        | _, _ => none
      else none
  | _ => none

/-- How `\x` escapes are understood. -/
inductive OctetEscapes where
  /-- Each stands for an octet of its own. -/
  | single
  /-- As many as a character takes stand for that character. -/
  | upTo (octets : Nat)

/-- What the escape behind a backslash stands for, and what follows it. -/
def escape? (octets : OctetEscapes) : List Char → Option (List Char × List Char)
  | '\'' :: rest => some (['\''], rest)
  | '"' :: rest => some (['"'], rest)
  | '\\' :: rest => some (['\\'], rest)
  | 'n' :: rest => some (['\n'], rest)
  | 'r' :: rest => some (['\r'], rest)
  | 't' :: rest => some (['\t'], rest)
  | '0' :: rest => some (['\x00'], rest)
  | 'x' :: rest =>
      match octets with
      | .single => (octet? rest).map fun (octet, rest) => ([Char.ofNat octet.toNat], rest)
      | .upTo limit => encodedCharacter? limit [] rest
  | 'u' :: rest => codePoint? rest
  | _ => none

/-! ## Strings -/

/-- White space that a line break behind a backslash takes with it. -/
def isJoined (c : Char) : Bool := c == ' ' || c == '\n' || c == '\r' || c == '\t'

/-- The string goes on behind a line break that follows a backslash and behind the
white space after it. -/
def joined? : List Char → Option (List Char)
  | '\n' :: rest | '\r' :: '\n' :: rest => some (rest.dropWhile isJoined)
  | _ => none

/-- A string up to its closing quote, and what follows.  Every step takes a
character, so the length of the text is fuel enough. -/
def quotedFrom (octets : OctetEscapes) : (fuel : Nat) → List Char → Option (List Char × List Char)
  | 0, _ => none
  | _ + 1, [] => none
  | _ + 1, '"' :: rest => some ([], rest)
  | fuel + 1, '\\' :: rest =>
      match joined? rest, escape? octets rest with
      | some rest, _ => quotedFrom octets fuel rest
      | none, some (chars, rest) =>
          (quotedFrom octets fuel rest).map fun (others, rest) => (chars ++ others, rest)
      | none, none => none
  | fuel + 1, c :: rest =>
      (quotedFrom octets fuel rest).map fun (others, rest) => (c :: others, rest)

def quoted? (octets : OctetEscapes) (text : List Char) : Option (List Char × List Char) :=
  quotedFrom octets text.length text

/-- A raw string up to `closing`, and what follows. -/
def rawFrom (closing : List Char) : List Char → Option (List Char × List Char)
  | [] => none
  | c :: rest =>
      if closing.isPrefixOf (c :: rest) then some ([], (c :: rest).drop closing.length)
      else (rawFrom closing rest).map fun (others, rest) => (c :: others, rest)

/-- A raw string behind its `r`. -/
def raw? (text : List Char) : Option (List Char × List Char) :=
  let hashes := text.takeWhile (· = '#')
  match text.drop hashes.length with
  | '"' :: rest => rawFrom ('"' :: hashes) rest
  | _ => none

/-- A string, and what follows. -/
def string? : List Char → Option (String × List Char)
  | '"' :: rest => (quoted? (.upTo 4) rest).map fun (chars, rest) => (String.ofList chars, rest)
  | 'r' :: rest => (raw? rest).map fun (chars, rest) => (String.ofList chars, rest)
  | _ => none

/-- What follows a character up to its closing apostrophe; an octet takes an ASCII
character. -/
def afterCharacter? (ofOctet : Bool) (text : List Char) : Option (List Char) :=
  let closed : List Char → Option (List Char)
    | '\'' :: rest => some rest
    | _ => none
  match text with
  | '\\' :: 'u' :: rest =>
      if ofOctet then none else (codePoint? rest).bind fun (_, rest) => closed rest
  | '\\' :: rest =>
      (escape? (if ofOctet then .single else .upTo 1) rest).bind fun (_, rest) => closed rest
  | c :: rest => if ofOctet && c.toNat ≥ 0x80 then none else closed rest
  | [] => none

/-- What follows a string of octets. -/
def afterOctets? : List Char → Option (List Char)
  | 'b' :: '"' :: rest => (quoted? .single rest).map Prod.snd
  | 'b' :: 'r' :: rest => (raw? rest).map Prod.snd
  | _ => none

/-! ## Numbers -/

/-- A character that cannot end a number. -/
def inNumber (c : Char) : Bool := c.isAlphanum || c == '_' || c == '.' || c == '+' || c == '-'

/-- The number at the start of the text as it is written, and what follows.  Two
points in a row end it. -/
def number : List Char → List Char × List Char
  | '.' :: '.' :: rest => ([], '.' :: '.' :: rest)
  | c :: rest =>
      if inNumber c then
        let (literal, rest) := number rest
        (c :: literal, rest)
      else ([], c :: rest)
  | [] => ([], [])

/-- A number's sign and the rest of it. -/
def sign : List Char → Bool × List Char
  | '-' :: rest => (true, rest)
  | '+' :: rest => (false, rest)
  | rest => (false, rest)

/-- The base that a number names, and the rest of it. -/
def base : List Char → Nat × List Char
  | '0' :: 'b' :: rest => (2, rest)
  | '0' :: 'o' :: rest => (8, rest)
  | '0' :: 'x' :: rest => (16, rest)
  | rest => (10, rest)

/-- A whole number: whether it is negative, its size and the kind written behind it. -/
def integer? (literal : List Char) : Option (Bool × Nat × List Char) :=
  let (negative, unsigned) := sign literal
  let (base, digitsAndKind) := base unsigned
  let inDigits (c : Char) : Bool := (hexDigit? c).isSome || c == '_'
  let digits := digitsAndKind.takeWhile inDigits
  let kind := digitsAndKind.drop digits.length
  match digits with
  | [] => none
  | '_' :: _ => none
  | _ => (digits? base (digits.filter (· ≠ '_'))).map fun size => (negative, size, kind)

/-- A whole number from 0 on that fits 64 bits. -/
def unsigned? (literal : List Char) : Option UInt64 :=
  match integer? literal with
  | some (negative, size, kind) =>
      if kind = [] ∨ kind = "u64".toList then
        if (negative ∧ size ≠ 0) ∨ size ≥ UInt64.size then none else some (UInt64.ofNat size)
      else none
  | none => none

/-- The kinds of whole numbers: least value (without its sign) and greatest value. -/
def integerKinds : List (String × Nat × Nat) :=
  [("i8", UInt8.size / 2, UInt8.size / 2 - 1), ("i16", UInt16.size / 2, UInt16.size / 2 - 1),
   ("i32", UInt32.size / 2, UInt32.size / 2 - 1), ("i64", UInt64.size / 2, UInt64.size / 2 - 1),
   ("u8", 0, UInt8.size - 1), ("u16", 0, UInt16.size - 1), ("u32", 0, UInt32.size - 1),
   ("u64", 0, UInt64.size - 1), ("", UInt64.size / 2, UInt64.size - 1)]

def isInteger (literal : List Char) : Bool :=
  match integer? literal with
  | some (negative, size, kind) =>
      match integerKinds.lookup (String.ofList kind) with
      | some (least, greatest) => if negative then size ≤ least else size ≤ greatest
      | none => false
  | none => false

/-- Decimal digits, and an exponent if there is one. -/
def isExponent : List Char → Bool
  | [] => true
  | c :: rest =>
      let digits := (sign rest).2
      (c == 'e' || c == 'E') && !digits.isEmpty && digits.all Char.isDigit

/-- A decimal fraction without its sign: there is a digit before or after the point. -/
def isFraction (literal : List Char) : Bool :=
  let whole := literal.takeWhile Char.isDigit
  match literal.drop whole.length with
  | '.' :: rest =>
      let part := rest.takeWhile Char.isDigit
      !(whole.isEmpty && part.isEmpty) && isExponent (rest.drop part.length)
  | rest => !whole.isEmpty && isExponent rest

/-- A fraction's underscores stand behind a digit or an exponent's letter. -/
def underscoresInPlace : (allowed : Bool) → List Char → Bool
  | _, [] => true
  | allowed, c :: rest =>
      if c = '_' then allowed && underscoresInPlace allowed rest
      else if c = '.' then underscoresInPlace false rest
      else underscoresInPlace (allowed || c.isDigit || c == 'e' || c == 'E') rest

/-- `literal` without a kind of fraction at its end. -/
def withoutFractionKind (literal : List Char) : List Char :=
  let reversed := literal.reverse
  if "f32".toList.reverse.isPrefixOf reversed || "f64".toList.reverse.isPrefixOf reversed then
    (reversed.drop 3).reverse
  else literal

def isFloat (literal : List Char) : Bool :=
  let value := withoutFractionKind literal
  let size := (sign value).2
  size = "inf".toList || size = "NaN".toList ||
    (underscoresInPlace false value && isFraction (size.filter (· ≠ '_')))

/-- A number of any kind. -/
def isNumber (literal : List Char) : Bool := isInteger literal || isFloat literal

/-- What follows a number of any kind, or an octet given as a character. -/
def afterNumber? : List Char → Option (List Char)
  | 'b' :: '\'' :: rest => afterCharacter? true rest
  | text =>
      let (literal, rest) := number text
      if isNumber literal then some rest else none

/-! ## Ranges -/

/-- What follows the two points of a range: the number that it goes up to.  It may be
left out unless the range includes it. -/
def afterUpperEnd? : List Char → Option (List Char)
  | '=' :: rest => afterNumber? rest
  | rest => some ((afterNumber? rest).getD rest)

/-- What follows a number, or a range between numbers, either of which may be left
out.  Nothing stands between the parts of a range. -/
def afterRange? : List Char → Option (List Char)
  | '.' :: '.' :: rest => afterUpperEnd? rest
  | text =>
      match afterNumber? text with
      | some ('.' :: '.' :: rest) => afterUpperEnd? rest
      | other => other

end ListExpansion.Document
