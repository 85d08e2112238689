/-
**Name constraints.**

`GeneralName.constrains` tells how a name relates to the subtree rooted at another of the same form;
`GeneralName.subtreeDepth` counts the levels of a name. Forms that only have equality answer nothing
else.
-/

import X509.Constraint.Domain
import X509.GeneralName.Basic
import X509.Name.Canonical

namespace X509

/-- The relation between two addresses or ranges of addresses. -/
def AddressRange.relation : AddressRange → AddressRange → NameRelation
  | .address first, .address second => if first = second then .same else .sameType
  | .network first, .network second =>
    .ofContainment (first.truncate == second.truncate) (first.containsNetwork second)
      (second.containsNetwork first)
  | .network first, .address second => .ofContainment false (first.contains second) false
  | .address first, .network second => .ofContainment false false (second.contains first)

/-- The relation between two directory names. -/
def Name.relation (first second : Name) : NameRelation :=
  .ofContainment (first.canonicalEq second) (second.isWithin first) (first.isWithin second)

namespace GeneralName

/-- How a second name relates to the subtree rooted at the first. -/
def constrains (first : GeneralName) (second : Option GeneralName) :
    Except ContentError NameRelation :=
  match first, second with
  | .dnsName first, some (.dnsName second) => .ok (domainRelation first.toList second.toList)
  | .rfc822Name first, some (.rfc822Name second) =>
    .ok (mailboxRelation first.toList second.toList)
  | .uri first, some (.uri second) => .ok (uriRelation first.toList second.toList)
  | .ipAddress first, some (.ipAddress second) => .ok (first.relation second)
  | .directoryName first, some (.directoryName second) => .ok (first.relation second)
  | first, some second =>
    if first.kind = second.kind then
      if first = second then .ok .same else .error (.unsupported first.kind .constrains)
    else
      .ok .differentType
  | _, none => .ok .differentType

/-- The number of levels of a name. -/
def subtreeDepth (name : GeneralName) : Except ContentError Nat :=
  match name with
  | .directoryName name => .ok name.levels.length
  | .dnsName domain => .ok (domainDepth domain.toList)
  | .rfc822Name mailbox => .ok (mailboxDepth mailbox.toList)
  | .uri text =>
    match uriDepth? text.toList with
    | some depth => .ok depth
    | none => .error (.unsupported .uri .subtreeDepth)
  | name => .error (.unsupported name.kind .subtreeDepth)

end GeneralName

end X509
