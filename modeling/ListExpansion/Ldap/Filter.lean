/-
# ListExpansion.Ldap.Filter -- which texts are search filters

A filter is checked before it is sent.  The grammar is that of the standard's
string form: `(&…)`, `(|…)`, `(!…)` and items such as `(mail=*@example.com)`,
`(uid>=7)` or `(cn:dn:2.4.6.8:=x)`.  An item that stands alone needs no
parentheses.

Each recogniser gives what follows the longest thing of its kind at the start of
the text, or nothing if there is none.
-/
import ListExpansion.Bytes

namespace ListExpansion.Ldap.Filter

set_option autoImplicit false

/-- An octet by the ASCII character that it is. -/
def octet (c : Char) : UInt8 := UInt8.ofNat c.toNat

def isDigit (b : UInt8) : Bool := octet '0' ≤ b && b ≤ octet '9'

def isLetter (b : UInt8) : Bool :=
  (octet 'a' ≤ b && b ≤ octet 'z') || (octet 'A' ≤ b && b ≤ octet 'Z')

def isHexDigit (b : UInt8) : Bool :=
  isDigit b || (octet 'a' ≤ b && b ≤ octet 'f') || (octet 'A' ≤ b && b ≤ octet 'F')

/-- Letters, digits and the hyphen. -/
def inKeyword (b : UInt8) : Bool := isLetter b || isDigit b || b == octet '-'

/-- What may stand in a value for itself or as part of an escape. -/
def inValue (b : UInt8) : Bool :=
  b != 0 && b != octet '(' && b != octet ')' && b != octet '*'

/-- The given text, and then what follows. -/
def literal? (text : String) (octets : Bytes) : Option Bytes :=
  Bytes.dropLeading? (Bytes.ofText text) octets

/-- A decimal number without leading zeros. -/
def number? (octets : Bytes) : Option Bytes :=
  let digits := octets.takeWhile isDigit
  match digits with
  | [] => none
  | first :: others =>
      if first = octet '0' ∧ others ≠ [] then none else some (octets.drop digits.length)

/-- All parts of the form `.number`; the fuel is their greatest possible count. -/
def afterDots : (fuel : Nat) → Bytes → Bytes
  | 0, octets => octets
  | fuel + 1, octets =>
      match (literal? "." octets).bind number? with
      | some rest => afterDots fuel rest
      | none => octets

/-- A numeric object identifier: numbers with points between them. -/
def numericId? (octets : Bytes) : Option Bytes :=
  (number? octets).map fun rest => afterDots rest.length rest

/-- A name: a letter, then letters, digits and hyphens. -/
def descriptor? : Bytes → Option Bytes
  | first :: rest => if isLetter first then some (rest.dropWhile inKeyword) else none
  | [] => none

/-- The type of an attribute, or a matching rule. -/
def attributeType? (octets : Bytes) : Option Bytes :=
  (numericId? octets).or (descriptor? octets)

/-- All options of the form `;option`; the fuel is their greatest possible count. -/
def afterOptions : (fuel : Nat) → Bytes → Bytes
  | 0, octets => octets
  | fuel + 1, octets =>
      match literal? ";" octets with
      | some rest =>
          let option := rest.takeWhile inKeyword
          if option.isEmpty then octets else afterOptions fuel (rest.drop option.length)
      | none => octets

/-- An attribute with its options. -/
def attribute? (octets : Bytes) : Option Bytes :=
  (attributeType? octets).map fun rest => afterOptions rest.length rest

/-- Every backslash is followed by two hexadecimal digits. -/
def escapesInPlace : Bytes → Bool
  | [] => true
  | b :: rest =>
      if b = octet '\\' then
        match rest with
        | x :: y :: more => isHexDigit x && isHexDigit y && escapesInPlace more
        | _ => false
      else escapesInPlace rest

/-- A value, whether it is empty, and what follows. -/
def value? (octets : Bytes) : Option (Bool × Bytes) :=
  let value := octets.takeWhile inValue
  if escapesInPlace value then some (value.isEmpty, octets.drop value.length) else none

/-- The values behind asterisks.  Only the last may be empty. -/
def afterAsterisks? : (fuel : Nat) → Bytes → Option Bytes
  | 0, _ => none
  | fuel + 1, octets =>
      match literal? "*" octets with
      | none => some octets
      | some rest =>
          match value? rest with
          | none => none
          | some (isEmpty, rest) =>
              if isEmpty && (literal? "*" rest).isSome then none else afterAsterisks? fuel rest

/-- An item that compares for equality, presence or a pattern. -/
def equality? (octets : Bytes) : Option Bytes :=
  match ((attribute? octets).bind (literal? "=")).bind value? with
  | some (_, rest) => afterAsterisks? (rest.length + 1) rest
  | none => none

/-- An item that compares for order or likeness. -/
def comparison? (octets : Bytes) : Option Bytes :=
  match attribute? octets with
  | none => none
  | some rest =>
      let compared := ((literal? ">=" rest).or (literal? "<=" rest)).or (literal? "~=" rest)
      (compared.bind value?).map Prod.snd

/-- What follows `:dn`, if the text begins so. -/
def afterDn (octets : Bytes) : Bytes := (literal? ":dn" octets).getD octets

/-- A matching rule behind a colon. -/
def rule? (octets : Bytes) : Option Bytes := (literal? ":" octets).bind attributeType?

/-- The value of an extensible item. -/
def extensibleValue? (octets : Bytes) : Option Bytes :=
  ((literal? ":=" octets).bind value?).map Prod.snd

/-- An item with a matching rule: an attribute, or a rule alone. -/
def extensible? (octets : Bytes) : Option Bytes :=
  let ofAttribute := (attribute? octets).bind fun rest =>
    let rest := afterDn rest
    extensibleValue? ((rule? rest).getD rest)
  ofAttribute.or ((rule? (afterDn octets)).bind extensibleValue?)

def item? (octets : Bytes) : Option Bytes :=
  ((equality? octets).or (comparison? octets)).or (extensible? octets)

mutual

/-- A filter in parentheses.  The fuel bounds how deep filters nest and how many
stand side by side; the length of the text is enough. -/
def filter? : (fuel : Nat) → Bytes → Option Bytes
  | 0, _ => none
  | fuel + 1, octets =>
      match literal? "(" octets with
      | none => none
      | some inside =>
          let list := ((literal? "&" inside).or (literal? "|" inside)).map (filters fuel)
          let negation := (literal? "!" inside).bind (filter? fuel)
          ((list.or negation).or (item? inside)).bind (literal? ")")

/-- As many filters as there are. -/
def filters : (fuel : Nat) → Bytes → Bytes
  | 0, octets => octets
  | fuel + 1, octets =>
      match filter? fuel octets with
      | some rest => filters fuel rest
      | none => octets

end

/-- Whether `text` is a filter. -/
def isFilter (text : String) : Bool :=
  let octets := Bytes.ofText text
  (filter? (2 * octets.length + 2) octets).or (item? octets) == some []

end ListExpansion.Ldap.Filter
