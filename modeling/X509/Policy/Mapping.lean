/-
**Certificate policies and the mapping between them.**

A policy is named by an object identifier. A mapping says that the issuer takes a policy of its own
for the same as one of the subject.
-/

import X509.ContentError
import X509.Element.Basic

namespace X509

/-- A certificate policy. -/
structure PolicyId where
  oid : ObjectIdentifier
deriving DecidableEq, Repr, Hashable, Inhabited

/-- Two policies that count as the same. -/
structure PolicyMapping where
  issuer : PolicyId
  subject : PolicyId
deriving DecidableEq, Repr, Hashable, Inhabited

namespace PolicyId

/-- The policy that stands for any other. -/
def anyPolicy : PolicyId :=
  ⟨⟨[2, 5, 29, 32, 0]⟩⟩

/-- Reads a policy. -/
def ofElement : Element → Except ContentError PolicyId
  | .objectIdentifier oid => .ok ⟨oid⟩
  | _ => .error (.expectedOid .policyMap)

/-- The element of a policy. -/
def toElement (policy : PolicyId) : Element :=
  .objectIdentifier policy.oid

end PolicyId

namespace PolicyMapping

/-- The two policies with words before them. -/
def display (mapping : PolicyMapping) : String :=
  "IssuerDomain:" ++ mapping.issuer.oid.toText ++ " SubjectDomain:" ++
    mapping.subject.oid.toText

/-- Reads a mapping. -/
def ofElement : Element → Except ContentError PolicyMapping
  | .sequence [issuer, subject] => do
    let issuer ← PolicyId.ofElement issuer
    let subject ← PolicyId.ofElement subject
    pure { issuer, subject }
  | .sequence members => .error (.memberCount .policyMap 2 members.length)
  | _ => .error (.expectedSequence .policyMap)

/-- The element of a mapping. -/
def toElement (mapping : PolicyMapping) : Element :=
  .sequence [mapping.issuer.toElement, mapping.subject.toElement]

theorem ofElement_toElement (mapping : PolicyMapping) :
    ofElement mapping.toElement = .ok mapping := rfl

end PolicyMapping

end X509
