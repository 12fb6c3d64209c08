/-
# ListExpansion.Config.Reading -- records read from any format

Settings are read from more than one format.  A `Reading` says how a format gives
texts, numbers, optional values and records; the records themselves are then read
once for all formats, field by field, each under any of its names.

A field given twice, under one name or two, spoils its record.  Names that a
record does not know do no harm.
-/

namespace ListExpansion

set_option autoImplicit false

/-- What a value gives for a record: fields by name, or all of them in order. -/
inductive Given (ν : Type) where
  | named (fields : List (String × ν))
  | inOrder (values : List ν)

/-- How values of a format are understood.  `none` means that a value is of
another kind. -/
structure Reading (ν : Type) where
  text? : ν → Option String
  seconds? : ν → Option UInt64
  /-- The inner `none` is an absent value. -/
  optional? : ν → Option (Option ν)
  record? : ν → Option (Given ν)

/-- A field of a record: its names, and its place among all of the fields. -/
structure Field where
  names : List String
  place : Nat
  fields : Nat

namespace Given

variable {ν α : Type}

/-- What is given for a field.  The outer `none` is a record spoilt, the inner one a
field left out. -/
def value? (given : Given ν) (field : Field) : Option (Option ν) :=
  match given with
  | .named fields =>
      match fields.filter fun (name, _) => field.names.contains name with
      | [] => some none
      | [(_, value)] => some (some value)
      | _ => none
  | .inOrder values => if values.length = field.fields then some values[field.place]? else none

/-- A field that has to be there. -/
def required (given : Given ν) (field : Field) (read : ν → Option α) : Option α :=
  match given.value? field with
  | some (some value) => read value
  | _ => none

/-- A field that may be left out in favour of `default`. -/
def defaulting (given : Given ν) (field : Field) (default : α) (read : ν → Option α) : Option α :=
  match given.value? field with
  | some (some value) => read value
  | some none => some default
  | none => none

end Given

namespace Reading

variable {ν α : Type}

/-- A value that may be absent, read by `read` if it is not. -/
def option (reading : Reading ν) (read : ν → Option α) (value : ν) : Option (Option α) :=
  match reading.optional? value with
  | some (some inner) => (read inner).map some
  | some none => some none
  | none => none

end Reading

end ListExpansion
