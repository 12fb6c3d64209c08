/-
# ListExpansion.Document.Identifier -- names in a document

A name begins like an identifier of Unicode or with `_`.  Written `r#name` it may
hold `.`, `+` and `-` as well; without that sign such a name is refused, so that
what follows is never taken for something else.
-/
import ListExpansion.Text.Identifier

namespace ListExpansion.Document

set_option autoImplicit false

def beginsName (c : Char) : Bool := Text.isIdentifierStart c || c == '_'

/-- Characters of a name that is written `r#name`. -/
def continuesRawName (c : Char) : Bool :=
  c == '.' || c == '+' || c == '-' || Text.isIdentifierContinue c

/-- Whether a string, and not a name, begins with these letters. -/
def beginsString : List Char → Bool
  | 'b' :: '"' :: _ | 'b' :: '\'' :: _ | 'r' :: '"' :: _ => true
  | 'b' :: 'r' :: '"' :: _ | 'b' :: 'r' :: '#' :: _ => true
  | 'r' :: '#' :: '"' :: _ | 'r' :: '#' :: '#' :: _ => true
  | _ => false

/-- A name as it stands, and what follows. -/
def plainName? (text : List Char) : Option (String × List Char) :=
  let name := text.takeWhile Text.isIdentifierContinue
  if (text.takeWhile continuesRawName).length > name.length then none
  else some (String.ofList name, text.drop name.length)

/-- The name at the start of the text, and what follows. -/
def name? (text : List Char) : Option (String × List Char) :=
  if beginsString text then none
  else
    match text with
    | 'r' :: '#' :: rest =>
        let name := rest.takeWhile continuesRawName
        if name.isEmpty then none else some (String.ofList name, rest.drop name.length)
    | c :: _ => if beginsName c then plainName? text else none
    | [] => none

/-- What follows the word `word`, if the text begins with it and no longer word. -/
def afterWord? (word : String) (text : List Char) : Option (List Char) :=
  if word.toList.isPrefixOf text then
    let rest := text.drop word.length
    match rest with
    | c :: _ => if Text.isIdentifierContinue c then none else some rest
    | [] => some rest
  else none

end ListExpansion.Document
