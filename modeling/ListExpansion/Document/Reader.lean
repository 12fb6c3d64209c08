/-
# ListExpansion.Document.Reader -- reading a document by its shape

A document is a record `(field: value, …)`, perhaps with its name in front.  An
optional value is `None` or `Some(value)`.  Before the document may stand attributes:
its type and its schema, which change nothing, and lists of extensions that loosen or
tighten the rules:

* `implicit_some`: a value may stand for itself where an optional one is expected;
* `unwrap_variant_newtypes`: a record or several items inside `Some` share its
  parentheses, and so does the value `()`;
* `explicit_struct_names`: records need their names;
* `unwrap_newtypes` changes nothing that settings hold.

Values nest up to a limit (`nesting`); `()` is a value that nothing is inside of.  The
reader's fuel is counted from the length of the text: between two characters there are
at most a few steps.
-/
import ListExpansion.Document.Identifier
import ListExpansion.Document.Literal
import ListExpansion.Document.Shape
import ListExpansion.Document.Spacing

namespace ListExpansion.Document

set_option autoImplicit false

/-! ## Attributes -/

/-- The extensions that are enabled. -/
structure Extensions where
  implicitSome : Bool
  unwrapVariants : Bool
  explicitNames : Bool

def Extensions.none : Extensions := ⟨false, false, false⟩

def Extensions.enable? (extensions : Extensions) (name : String) : Option Extensions :=
  if name = "implicit_some" then some { extensions with implicitSome := true }
  else if name = "unwrap_variant_newtypes" then some { extensions with unwrapVariants := true }
  else if name = "explicit_struct_names" then some { extensions with explicitNames := true }
  else if name = "unwrap_newtypes" then some extensions
  else .none

/-- What follows the given words, each with spacing behind it. -/
def afterAll? (words : List String) (text : List Char) : Option (List Char) :=
  words.foldlM
    (fun text word =>
      if word.toList.isPrefixOf text then skip? (text.drop word.length) else none)
    text

/-- The names in a list of extensions, and what follows the last of them. -/
def extensionNames? : (fuel : Nat) → Extensions → List Char → Option (Extensions × List Char)
  | 0, _, _ => none
  | fuel + 1, extensions, text => do
      let (name, rest) ← name? text
      let extensions ← extensions.enable? name
      let (goesOn, rest) ← comma? rest
      match rest with
      | c :: _ =>
          if goesOn && beginsName c then extensionNames? fuel extensions rest
          else return (extensions, rest)
      | [] => return (extensions, rest)

/-- What follows an attribute whose value is a string. -/
def afterDescription? (word : String) (text : List Char) : Option (List Char) := do
  let (_, rest) ← string? (← afterAll? [word, "="] text)
  afterAll? ["]"] (← skip? rest)

/-- All attributes before the document, and the document. -/
def attributes? : (fuel : Nat) → Extensions → List Char → Option (Extensions × List Char)
  | 0, _, _ => none
  | fuel + 1, extensions, text =>
      match text with
      | '#' :: _ => do
          let rest ← afterAll? ["#", "!", "["] text
          match (afterDescription? "type" rest).or (afterDescription? "schema" rest) with
          | some rest => attributes? fuel extensions rest
          | none =>
              let (extensions, rest) ←
                extensionNames? fuel extensions (← afterAll? ["enable", "("] rest)
              attributes? fuel extensions (← afterAll? [")", "]"] rest)
      | _ => some (extensions, text)

/-! ## Values -/

/-- How deep values nest: each record, list, field and item takes one. -/
def nesting : Nat := 128

def deeper? : Nat → Option Nat
  | 0 => none
  | depth + 1 => some depth

/-- Words that are values of their own.  Written `r#word` they are names like any
other. -/
def constants : List String :=
  ["true", "false", "None", "inf", "inff32", "inff64", "NaN", "NaNf32", "NaNf64"]

/-- What follows a constant. -/
def afterConstant? (text : List Char) : Option (List Char) :=
  match plainName? text with
  | some (name, rest) => if constants.contains name then some rest else none
  | none => none

/-- What follows the name of a record, which has to be `expected` if it is there. -/
def recordName? (extensions : Extensions) (expected : String) (text : List Char) :
    Option (List Char) :=
  let named := match text with
    | c :: _ => Text.isIdentifierContinue c
    | [] => false
  if named then
    match name? text with
    | some (name, rest) => if name = expected then skip? rest else none
    | none => none
  else if extensions.explicitNames then none
  else some text

/-- Whether a name with a colon behind it comes next. -/
def beginsField (text : List Char) : Bool :=
  match name? text with
  | some (_, rest) =>
      match skip? rest with
      | some (':' :: _) => true
      | _ => false
  | none => false

/-- What follows `Some`, its spacing and, if there is one, the parenthesis behind
it with its spacing; and whether there is one. -/
def afterSome? (text : List Char) : Option (Option (Bool × List Char)) :=
  match afterWord? "Some" text with
  | none => some none
  | some rest =>
      match skip? rest with
      | some ('(' :: rest) => (skip? rest).map fun rest => some (true, rest)
      | some rest => some (some (false, rest))
      | none => none

/-- What follows the parenthesis that closes a `Some`. -/
def closeSome? (text : List Char) : Option (List Char) :=
  match comma? text with
  | some (_, ')' :: rest) => some rest
  | _ => none

/-- What follows a character, a string or octets between quotes. -/
def afterQuoted? (text : List Char) : Option (List Char) :=
  match text with
  | '\'' :: rest => afterCharacter? false rest
  | _ => ((string? text).map Prod.snd).or (afterOctets? text)

/-- Whether what stands in parentheses goes on behind its first comma.  Brackets are
counted, `depth` of them being open, and what is quoted is passed over. -/
def goesOnFrom : (fuel depth : Nat) → List Char → Option Bool
  | 0, _, _ => none
  | fuel + 1, depth, text => do
      let text ← skip? text
      match afterQuoted? text, text with
      | some rest, _ => goesOnFrom fuel depth rest
      | none, [] => none
      | none, c :: rest =>
          if c = '(' ∨ c = '[' ∨ c = '\x7b' then goesOnFrom fuel (depth + 1) rest
          else if c = ')' ∨ c = ']' ∨ c = '\x7d' then
            if depth ≤ 1 then return false else goesOnFrom fuel (depth - 1) rest
          else if c = ',' ∧ depth = 1 then return (← skip? rest).head? ≠ some ')'
          else goesOnFrom fuel depth rest

/-- What the inside of a `Some` is when its parentheses may be shared. -/
inductive Inside where
  | nothing
  | fields
  | items
  | value

def Inside.of? (text : List Char) : Option Inside :=
  if text.head? = some ')' then some .nothing
  else if beginsField text then some .fields
  else (goesOnFrom (text.length + 1) 1 text).map fun goesOn => if goesOn then .items else .value

mutual

/-- A value of the given shape, and what follows it. -/
def value? (extensions : Extensions) :
    (fuel depth : Nat) → Shape → List Char → Option (Document × List Char)
  | 0, _, _, _ => none
  | fuel + 1, depth, shape, text =>
      match shape with
      | .text => (string? text).map fun (value, rest) => (.string value, rest)
      | .seconds =>
          let (literal, rest) := number text
          (unsigned? literal).map fun value => (.seconds value, rest)
      | .record name fields => do
          let rest ← recordName? extensions name text
          match rest with
          | '(' :: rest =>
              let (found, rest) ← fields? extensions fuel (← deeper? depth) fields true rest
              return (.record found, rest)
          | _ => none
      | .optional inner =>
          match afterWord? "None" text with
          | some rest => some (.absent, rest)
          | none => do
              let inside ← deeper? depth
              match ← afterSome? text with
              | some (true, rest) =>
                  match inner, extensions.unwrapVariants with
                  | .record _ fields, true =>
                      let (found, rest) ← fields? extensions fuel (← deeper? inside) fields true rest
                      return (.present (.record found), rest)
                  | _, _ =>
                      let (found, rest) ← value? extensions fuel inside inner rest
                      let rest ← closeSome? rest
                      return (.present found, rest)
              | some (false, rest) =>
                  if extensions.implicitSome then
                    let (found, rest) ← value? extensions fuel inside inner rest
                    return (.present found, rest)
                  else none
              | none =>
                  if extensions.implicitSome then
                    let (found, rest) ← value? extensions fuel inside inner text
                    return (.present found, rest)
                  else none
      | .anything => (anything? extensions fuel depth text).map fun rest => (.passedOver, rest)

/-- What follows a value of any shape. -/
def anything? (extensions : Extensions) : (fuel depth : Nat) → List Char → Option (List Char)
  | 0, _, _ => none
  | fuel + 1, depth, text => do
      match ← afterSome? text with
      | some (true, rest) =>
          let inside ← deeper? depth
          match ← (if extensions.unwrapVariants then Inside.of? rest else some .value) with
          | .nothing => closeSome? rest
          | .fields => (fields? extensions fuel (← deeper? inside) [] true rest).map Prod.snd
          | .items => items? extensions fuel (← deeper? inside) ')' true rest
          | .value => closeSome? (← anything? extensions fuel inside rest)
      | some (false, rest) =>
          if extensions.implicitSome then anything? extensions fuel (← deeper? depth) rest
          else none
      | none =>
          match afterConstant? text, name? text with
          | some rest, _ => return rest
          | none, some (_, rest) =>
              match ← skip? rest with
              | '(' :: rest => parenthesized? extensions fuel depth rest
              | rest => return rest
          | none, none =>
              match text with
              | '(' :: ')' :: rest => return rest
              | '(' :: rest => parenthesized? extensions fuel depth rest
              | '[' :: rest => items? extensions fuel (← deeper? depth) ']' true rest
              | '\x7b' :: rest => entries? extensions fuel (← deeper? depth) true rest
              | '"' :: _ | 'r' :: _ => (string? text).map Prod.snd
              | 'b' :: '"' :: _ | 'b' :: 'r' :: _ => afterOctets? text
              | '\'' :: rest => afterCharacter? false rest
              | _ => afterRange? text

/-- What follows the fields or items inside parentheses. -/
def parenthesized? (extensions : Extensions) : (fuel depth : Nat) → List Char → Option (List Char)
  | 0, _, _ => none
  | fuel + 1, depth, text => do
      let inside ← deeper? depth
      let rest ← skip? text
      if beginsField rest then
        let (_, rest) ← fields? extensions fuel inside [] true rest
        return rest
      else items? extensions fuel inside ')' true rest

/-- Fields up to the closing parenthesis, and what follows it.  There is a comma
between two fields; `separated` says whether one was just read. -/
def fields? (extensions : Extensions) :
    (fuel depth : Nat) → List (List String × Shape) → (separated : Bool) → List Char →
      Option (List (String × Document) × List Char)
  | 0, _, _, _, _ => none
  | fuel + 1, depth, shapes, separated, text => do
      match ← skip? text with
      | ')' :: rest => return ([], rest)
      | rest =>
          if separated then
            let inside ← deeper? depth
            let (name, rest) ← name? rest
            match ← skip? rest with
            | ':' :: rest =>
                let (found, rest) ←
                  value? extensions fuel inside (Shape.ofField shapes name) (← skip? rest)
                let (separated, rest) ← comma? rest
                let (others, rest) ← fields? extensions fuel depth shapes separated rest
                return ((name, found) :: others, rest)
            | _ => none
          else none

/-- What follows items up to `closing`. -/
def items? (extensions : Extensions) :
    (fuel depth : Nat) → (closing : Char) → (separated : Bool) → List Char → Option (List Char)
  | 0, _, _, _, _ => none
  | fuel + 1, depth, closing, separated, text => do
      match ← skip? text with
      | [] => none
      | c :: rest =>
          if c = closing then return rest
          else if separated then
            let rest ← anything? extensions fuel (← deeper? depth) (c :: rest)
            let (separated, rest) ← comma? rest
            items? extensions fuel depth closing separated rest
          else none

/-- What follows the entries of a map. -/
def entries? (extensions : Extensions) :
    (fuel depth : Nat) → (separated : Bool) → List Char → Option (List Char)
  | 0, _, _, _ => none
  | fuel + 1, depth, separated, text => do
      match ← skip? text with
      | '\x7d' :: rest => return rest
      | rest =>
          if separated then
            let inside ← deeper? depth
            let rest ← anything? extensions fuel inside rest
            match ← skip? rest with
            | ':' :: rest =>
                let rest ← anything? extensions fuel inside (← skip? rest)
                let (separated, rest) ← comma? rest
                entries? extensions fuel depth separated rest
            | _ => none
          else none

end

/-- The document that `text` is, if it has the given shape and nothing follows it. -/
def parse? (shape : Shape) (text : String) : Option Document := do
  let chars := text.toList
  let fuel := 4 * (chars.length + 1)
  let rest ← skip? chars
  let (extensions, rest) ← attributes? fuel .none rest
  let (found, rest) ← value? extensions fuel nesting shape rest
  match ← skip? rest with
  | [] => return found
  | _ => none

end ListExpansion.Document
