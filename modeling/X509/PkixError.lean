/-
**Why an element is no part of a certificate.**

The faults of names, keys, serial numbers and extension envelopes. A fault of an element inside one
of them is kept as its cause.
-/

import X509.Element.Error
import X509.Text.Quoted

namespace X509

/-- A fault of a part of a certificate. -/
inductive PkixError where
  | directoryStringInvalidUtf8
  | directoryStringExpectedString
  | directoryStringNotPrintable (text : String)
  | extensionExpectedSequence
  | extensionMemberCount (count : Nat)
  | extensionExpectedOctetString
  | extensionExpectedCriticalOrValue
  | extensionExpectedOid
  | nameExpectedSequence
  | rdnExpectedSet
  | rdnEmpty
  | attributeExpectedSequence
  | attributeExpectedOid
  | attributeMemberCount
  | algorithmExpectedSequence
  | algorithmMemberCount (count : Nat)
  | algorithmExpectedOid
  | serialNumberExpectedInteger
  | publicKeyExpectedSequence
  | publicKeyExpectedBitString
  | publicKeyMemberCount (count : Nat)
  | keyIdentifierExpectedOctetString
  | element (cause : ElementError)
deriving DecidableEq, Repr, Inhabited

/-- The wording of a fault. -/
def PkixError.message : PkixError → String
  | .directoryStringInvalidUtf8 => "DirectoryString: invalid UTF-8 in OctetString"
  | .directoryStringExpectedString => "DirectoryString: expected string type"
  | .directoryStringNotPrintable text =>
    "DirectoryString: " ++ Text.quoted text ++ " is not valid for PrintableString"
  | .extensionExpectedSequence => "Extension: expected SEQUENCE"
  | .extensionMemberCount count => "Extension: expected 2 or 3 elements, got " ++ toString count
  | .extensionExpectedOctetString => "Extension: expected OCTET STRING for extnValue"
  | .extensionExpectedCriticalOrValue =>
    "Extension: expected BOOLEAN for critical or OCTET STRING for extnValue"
  | .extensionExpectedOid => "Extension: expected OBJECT IDENTIFIER for extnID"
  | .nameExpectedSequence => "Name: expected SEQUENCE"
  | .rdnExpectedSet => "RelativeDistinguishedName: expected SET"
  | .rdnEmpty => "RelativeDistinguishedName: must contain at least one attribute"
  | .attributeExpectedSequence => "AttributeTypeAndValue: expected SEQUENCE"
  | .attributeExpectedOid =>
    "AttributeTypeAndValue: expected OBJECT IDENTIFIER for attribute type"
  | .attributeMemberCount => "AttributeTypeAndValue: expected 2 elements"
  | .algorithmExpectedSequence => "AlgorithmIdentifier: expected SEQUENCE"
  | .algorithmMemberCount count =>
    "AlgorithmIdentifier: expected 1 or 2 elements, got " ++ toString count
  | .algorithmExpectedOid => "AlgorithmIdentifier: expected OBJECT IDENTIFIER for algorithm"
  | .serialNumberExpectedInteger => "SerialNumber: expected INTEGER"
  | .publicKeyExpectedSequence => "SubjectPublicKeyInfo: expected SEQUENCE"
  | .publicKeyExpectedBitString =>
    "SubjectPublicKeyInfo: expected BIT STRING for subject public key"
  | .publicKeyMemberCount count =>
    "SubjectPublicKeyInfo: expected 2 elements, got " ++ toString count
  | .keyIdentifierExpectedOctetString => "KeyIdentifier: expected OCTET STRING"
  | .element cause => "ASN.1 error: " ++ cause.message

end X509
