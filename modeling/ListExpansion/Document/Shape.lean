/-
# ListExpansion.Document.Shape -- what a document is expected to be

A document is read by the shape it is expected to have.  Where nothing is expected
(`Shape.anything`) any well-formed value will do, and it is passed over.
-/

namespace ListExpansion

set_option autoImplicit false

/-- What is expected. -/
inductive Shape where
  | anything
  | text
  /-- A whole number of seconds that fits 64 bits. -/
  | seconds
  | optional (inner : Shape)
  /-- Named fields, each under any of its names; other names take anything. -/
  | record (name : String) (fields : List (List String × Shape))

/-- What was found. -/
inductive Document where
  | passedOver
  | string (value : String)
  | seconds (value : UInt64)
  | absent
  | present (value : Document)
  | record (fields : List (String × Document))

/-- The shape of a field, anything for a name that is not known. -/
def Shape.ofField (fields : List (List String × Shape)) (name : String) : Shape :=
  match fields.find? fun (names, _) => names.contains name with
  | some (_, shape) => shape
  | none => .anything

end ListExpansion
