/-
# ListExpansion.DomainName.Basic -- domain names

`read?` turns a text into the domain name that it stands for: its characters in their
usual form, letters and marks composed, and its labels checked.  Names are as long
as they like, and labels may be empty.
-/
import ListExpansion.DomainName.Label
import ListExpansion.Host.Address

namespace ListExpansion.DomainName

set_option autoImplicit false

/-- Characters of ASCII that no domain name may hold. -/
def isForbidden (c : Char) : Bool :=
  c.toNat ≤ 0x20 || c.toNat == 0x7F || "%#/:<>?@[\\]^|".toList.contains c

def labels (name : List Char) : List (List Char) := IpAddress.splitChars '.' name

/-- Whether the labels, each as it is shown, may stand together. -/
def areValid (shown : List (List Char)) : Bool :=
  shown.all isWellFormed &&
    (!(shown.any fun label => label.any turnsBack) || shown.all keepsDirection)

/-- The domain name that `text` stands for. -/
def read? (text : List Char) : Option (List Char) := do
  let name := Text.composed (← text.mapM usualForm?).flatten
  let shown ← (labels name).mapM shown?
  if name.any isForbidden || !areValid shown then none else return name

end ListExpansion.DomainName
