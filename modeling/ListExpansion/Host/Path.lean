/-
# ListExpansion.Host.Path -- paths taken apart

A path is a string of octets, cut at slashes.  Empty segments and `.` segments
name nothing, except a `.` that begins a relative path.  Two paths are alike when
the same segments are left (`Path.alike`); `..` is a segment like any other,
because what it leads to depends on links.
-/
import ListExpansion.Bytes

namespace ListExpansion.Path

set_option autoImplicit false

/-- The octet of `/`. -/
def slash : UInt8 := 0x2F

/-- The segment `.`. -/
def dot : Bytes := [0x2E]

/-- The segment `..`. -/
def dotDot : Bytes := [0x2E, 0x2E]

def isAbsolute (path : Bytes) : Bool := path.head? == some slash

/-- Whether a relative path begins with a `.` of its own. -/
def leadsWithDot (path : Bytes) : Bool :=
  path == dot || (Bytes.dropLeading? [0x2E, slash] path).isSome

/-- What a path begins with before its segments: the root, a `.`, or nothing. -/
def lead (path : Bytes) : Bytes :=
  if isAbsolute path then [slash]
  else if leadsWithDot path then dot
  else []

/-- A segment that names nothing. -/
def isVoid (segment : Bytes) : Bool := segment.isEmpty || segment == dot

/-- All segments after the lead, void ones included. -/
def body (path : Bytes) : List Bytes :=
  Bytes.split slash (path.drop (lead path).length)

/-- The segments that name something. -/
def names (path : Bytes) : List Bytes :=
  (body path).filter fun segment => !isVoid segment

/-- The same lead and the same names. -/
def alike (a b : Bytes) : Bool := lead a == lead b && names a == names b

/-- Segments with slashes between them. -/
def joined : List Bytes → Bytes
  | [] => []
  | [segment] => segment
  | segment :: rest => segment ++ slash :: joined rest

/-- The segments without void ones at the end. -/
def withoutTrailingVoids (segments : List Bytes) : List Bytes :=
  (segments.reverse.dropWhile isVoid).reverse

/-- The path less its last name and all voids beside it.  The root and the empty
path have none; a path of one name has the empty one. -/
def parent? (path : Bytes) : Option Bytes :=
  match (withoutTrailingVoids (body path)).reverse with
  | [] => if lead path == dot then some [] else none
  | _ :: before => some (lead path ++ joined (withoutTrailingVoids before.reverse))

end ListExpansion.Path
