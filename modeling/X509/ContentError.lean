/-
**Why the contents of an extension or a field are not what they should be.**

A fault names the structure it was found in. Faults of the elements and of the parts of a
certificate inside that structure are kept as causes.
-/

import X509.GeneralName.Kind
import X509.PkixError

namespace X509

/-- The structures in which faults are found. -/
inductive Subject where
  | generalName
  | generalNames
  | generalSubtree
  | nameConstraints
  | distributionPointName
  | distributionPoint
  | reasonFlags
  | policyMap
  | accessDescription
  | extension
  | subjectKeyIdentifier
  | certificateIssuer
  | crlReasonCode
  | crlNumber
  | deltaCrlIndicator
  | algorithmId
  | serialNumber
  | publicKey
deriving DecidableEq, Repr, Inhabited

/-- The name of a structure. -/
def Subject.display : Subject → String
  | .generalName => "GeneralName"
  | .generalNames => "GeneralNames"
  | .generalSubtree => "GeneralSubtree"
  | .nameConstraints => "NameConstraints"
  | .distributionPointName => "DistributionPointName"
  | .distributionPoint => "DistributionPoint"
  | .reasonFlags => "ReasonFlags"
  | .policyMap => "CertificatePolicyMap"
  | .accessDescription => "AccessDescription"
  | .extension => "Extension"
  | .subjectKeyIdentifier => "SubjectKeyIdentifier"
  | .certificateIssuer => "CertificateIssuer"
  | .crlReasonCode => "CRLReasonCode"
  | .crlNumber => "CRLNumber"
  | .deltaCrlIndicator => "DeltaCRLIndicator"
  | .algorithmId => "CertificateAlgorithmId"
  | .serialNumber => "CertificateSerialNumber"
  | .publicKey => "CertificateX509Key"

/-- The numbers that may be out of range. -/
inductive RangedField where
  | minimum
  | maximum
  | number
deriving DecidableEq, Repr, Inhabited

/-- The name of a number. -/
def RangedField.display : RangedField → String
  | .minimum => "minimum"
  | .maximum => "maximum"
  | .number => "number"

/-- The questions that not every form of name answers. -/
inductive NameOperation where
  | constrains
  | subtreeDepth
deriving DecidableEq, Repr, Inhabited

/-- The name of a question. -/
def NameOperation.display : NameOperation → String
  | .constrains => "constrains"
  | .subtreeDepth => "subtree_depth"

/-- A fault of the contents of an extension or a field. -/
inductive ContentError where
  | emptySequence (subject : Subject)
  | expectedSequence (subject : Subject)
  | expectedOctetString (subject : Subject)
  | expectedBitString (subject : Subject)
  | expectedInteger (subject : Subject)
  | expectedEnumerated (subject : Subject)
  | expectedOid (subject : Subject)
  | expectedContextSpecific (subject : Subject)
  | unexpectedContextTag (subject : Subject) (slot : UInt8)
  | expectedPrimitiveContextTag (subject : Subject) (slot : UInt8)
  | expectedConstructedContextTag (subject : Subject) (slot : UInt8)
  | memberCount (subject : Subject) (expected actual : Nat)
  | outOfRange (subject : Subject) (field : RangedField)
  | invalidExplicitTag (subject : Subject) (slot : UInt8)
  | unknownNameTag (slot : UInt8)
  | invalidIa5 (kind : NameKind)
  | invalidDnsName (text : String)
  | invalidRfc822Name (text : String)
  | invalidUri (text : String)
  | ipAddressLength (masksAllowed : Bool) (actual : Nat)
  | invalidMask (text : String)
  | otherNameExpectedExplicitTag
  | ediPartyNameMissing
  | nameConstraintsEmpty
  | unsupported (kind : NameKind) (operation : NameOperation)
  | emptyAlternative (subject : Subject)
  | unknownAttribute (subject : Subject) (attr : String)
  | attributeType (subject : Subject) (attr expected : String)
  | missingValue (subject : Subject)
  | oidMismatch (expected actual : String)
  | element (cause : ElementError)
  | pkix (cause : PkixError)
deriving DecidableEq, Repr, Inhabited

/-- The wording of a fault. -/
def ContentError.message : ContentError → String
  | .emptySequence subject => subject.display ++ ": empty sequence"
  | .expectedSequence subject => subject.display ++ ": expected SEQUENCE"
  | .expectedOctetString subject => subject.display ++ ": expected OCTET STRING"
  | .expectedBitString subject => subject.display ++ ": expected BIT STRING"
  | .expectedInteger subject => subject.display ++ ": expected INTEGER"
  | .expectedEnumerated subject => subject.display ++ ": expected ENUMERATED"
  | .expectedOid subject => subject.display ++ ": expected OBJECT IDENTIFIER"
  | .expectedContextSpecific subject =>
    subject.display ++ ": expected a context-specific element"
  | .unexpectedContextTag subject slot =>
    subject.display ++ ": unexpected context-specific tag [" ++ toString slot.toNat ++ "]"
  | .expectedPrimitiveContextTag subject slot =>
    subject.display ++ ": context-specific tag [" ++ toString slot.toNat ++ "] must be primitive"
  | .expectedConstructedContextTag subject slot =>
    subject.display ++ ": context-specific tag [" ++ toString slot.toNat ++
      "] must be constructed"
  | .memberCount subject expected actual =>
    subject.display ++ ": expected " ++ toString expected ++ " elements, got " ++ toString actual
  | .outOfRange subject field => subject.display ++ ": " ++ field.display ++ " out of range"
  | .invalidExplicitTag subject slot =>
    subject.display ++ ": [" ++ toString slot.toNat ++ "] EXPLICIT must wrap exactly one value"
  | .unknownNameTag slot =>
    "GeneralName: unknown context-specific tag [" ++ toString slot.toNat ++ "]"
  | .invalidIa5 kind => "GeneralName: " ++ kind.display ++ " must be an IA5String"
  | .invalidDnsName text => "GeneralName: invalid dNSName " ++ Text.quoted text
  | .invalidRfc822Name text => "GeneralName: invalid rfc822Name " ++ Text.quoted text
  | .invalidUri text => "GeneralName: invalid uniformResourceIdentifier " ++ Text.quoted text
  | .ipAddressLength masksAllowed actual =>
    "GeneralName: iPAddress must be " ++
      (if masksAllowed then "4, 8, 16 or 32" else "4 or 16") ++ " bytes, got " ++ toString actual
  | .invalidMask text => "GeneralName: non-contiguous netmask in iPAddress " ++ text
  | .otherNameExpectedExplicitTag => "GeneralName: otherName value must be [0] EXPLICIT"
  | .ediPartyNameMissing => "GeneralName: ediPartyName missing required partyName [1]"
  | .nameConstraintsEmpty =>
    "NameConstraints: at least one of permittedSubtrees or excludedSubtrees must be present"
  | .unsupported kind operation =>
    operation.display ++ " is not supported for " ++ kind.display
  | .emptyAlternative subject => subject.display ++ ": alternative must not be empty"
  | .unknownAttribute subject attr =>
    subject.display ++ ": unknown attribute " ++ Text.quoted attr
  | .attributeType subject attr expected =>
    subject.display ++ ": attribute " ++ Text.quoted attr ++ " expects a " ++ expected ++ " value"
  | .missingValue subject => subject.display ++ ": value is not set"
  | .oidMismatch expected actual =>
    "OID mismatch: expected " ++ expected ++ ", got " ++ actual
  | .element cause => "invalid ASN.1: " ++ cause.message
  | .pkix cause => "PKIX types error: " ++ cause.message

/-- A reading or writing of elements, as a step of reading or writing contents. -/
def ContentError.fromElement {α : Type} (step : Except ElementError α) : Except ContentError α :=
  step.mapError .element

/-- A reading or writing of a part of a certificate, as a step of reading or writing contents. -/
def ContentError.fromPkix {α : Type} (step : Except PkixError α) : Except ContentError α :=
  step.mapError .pkix

end X509
