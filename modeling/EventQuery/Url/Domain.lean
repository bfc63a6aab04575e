import EventQuery.Url.Domain.Label
import EventQuery.Url.Address

/-!
Domain names in their ASCII form.

Each character is replaced by what it is compared as, the name is composed, and
its labels are written in ASCII. Names that hold forbidden characters, or a label
that is not allowed, have no such form.
-/

namespace EventQuery

/-- The characters that no domain name holds. -/
def isForbiddenInDomain (c : Char) : Bool :=
  c.toNat ≤ 0x20 || c.toNat == 0x7f ||
    ['%', '#', '/', ':', '<', '>', '?', '@', '[', '\\', ']', '^', '|'].contains c

/-- Whether the labels of a name keep to one direction each, where one of them is
written from right to left. -/
def directionsAllowed (labels : List (List Char)) : Bool :=
  !labels.any DomainLabel.hasRightToLeft || labels.all DomainLabel.directionAllowed

/-- The ASCII form of a domain name, if it has one. -/
def domainToAscii? (cs : List Char) : Option (List Char) := do
  let mapped ← cs.mapM mapChar?
  let name := composedForm mapped.flatten
  if name.any isForbiddenInDomain then none
  else do
    let labels ← (splitOnChars (· == '.') name).mapM DomainLabel.read?
    if labels.any (·.any isForbiddenInDomain) || !directionsAllowed labels then none
    else some (['.'].intercalate (labels.map DomainLabel.toAscii))

end EventQuery
