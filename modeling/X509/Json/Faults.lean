/-
**JSON forms of faults.**

A fault is an object with a word for its kind and its wording. Where a fault has a cause of another
kind, the word for the cause follows after a dot.
-/

import X509.ContentError
import X509.Json.Basic

namespace X509

/-- A fault by its kind and its wording. -/
def Json.fault (kind message : String) : Json :=
  .object [("error", .string kind), ("message", .string message)]

/-! ### Encoded values and elements -/

/-- The word for a framing fault. -/
def TlvError.word : TlvError → String
  | .endOfInput => "Parser"
  | .indefiniteLength => "IndefiniteLength"
  | .lengthTooLarge _ => "LengthTooLarge"
  | .highTagNumber _ => "UnsupportedHighTag"

/-- The word for a fault of an object identifier. -/
def ObjectIdentifier.Fault.word : Fault → String
  | .noOctets => "ObjectIdentifierNoData"
  | .unfinished => "ObjectIdentifierIncompleteEncoding"
  | .arcOverflow => "ObjectIdentifierArcOverflow"
  | .tooFewArcs => "ObjectIdentifierTooFewComponents"
  | .noText => "ObjectIdentifierEmptyString"
  | .invalidArc _ => "ObjectIdentifierInvalidComponent"

/-- The word for a fault of a bit string. -/
def BitString.Fault.word : Fault → String
  | .noOctets => "BitStringNoData"
  | .unusedOutOfRange _ => "BitStringUnusedBitsOutOfRange"

/-- The word for a fault of a text in two octets a character. -/
def BmpText.Fault.word : Fault → String
  | .oddLength _ => "BmpStringOddLength"
  | .invalidCodePoint .. => "BmpStringInvalidCodePoint"
  | .beyondPlane => "BmpStringRequiresSurrogatePair"

/-- The word for a fault of an element. -/
def ElementError.word : ElementError → String
  | .invalidBoolean => "InvalidBoolean"
  | .integerNoOctets => "IntegerNoData"
  | .enumeratedNoOctets => "EnumeratedNoData"
  | .objectIdentifier fault => fault.word
  | .bitString fault => fault.word
  | .invalidUtf8 => "Utf8StringInvalidUtf8"
  | .invalidPrintable => "PrintableStringInvalidEncoding"
  | .invalidIa5 => "Ia5StringInvalidEncoding"
  | .invalidUtcTime => "UtcTimeInvalidFormat"
  | .invalidGeneralizedTime => "GeneralizedTimeInvalidFormat"
  | .bmpText fault => fault.word
  | .expectedConstructed _ => "ExpectedConstructed"
  | .tagging .. => "InvalidContextSpecific"
  | .expectedContextSpecific => "ExpectedContextSpecific"
  | .framing fault => "FailedToDecodeDer." ++ fault.word
  | .expectedSingle _ => "ExpectedSingleElement"

/-- The form of a framing fault. -/
def TlvError.toJson (error : TlvError) : Json :=
  .fault error.word error.message

/-- The form of a fault of an element. -/
def ElementError.toJson (error : ElementError) : Json :=
  .fault error.word error.message

/-! ### Parts of certificates and contents -/

/-- The word for a fault of a part of a certificate. -/
def PkixError.word : PkixError → String
  | .directoryStringInvalidUtf8 => "DirectoryStringInvalidUtf8"
  | .directoryStringExpectedString => "DirectoryStringExpectedStringType"
  | .directoryStringNotPrintable _ => "DirectoryStringNotPrintable"
  | .extensionExpectedSequence => "ExtensionExpectedSequence"
  | .extensionMemberCount _ => "ExtensionInvalidElementCount"
  | .extensionExpectedOctetString => "ExtensionExpectedOctetString"
  | .extensionExpectedCriticalOrValue => "ExtensionInvalidCriticalOrValue"
  | .extensionExpectedOid => "ExtensionExpectedOidForExtnId"
  | .nameExpectedSequence => "NameExpectedSequence"
  | .rdnExpectedSet => "RdnExpectedSet"
  | .rdnEmpty => "RdnEmpty"
  | .attributeExpectedSequence => "AttributeTypeAndValueExpectedSequence"
  | .attributeExpectedOid => "AttributeTypeAndValueExpectedOid"
  | .attributeMemberCount => "AttributeTypeAndValueInvalidElementCount"
  | .algorithmExpectedSequence => "AlgorithmIdentifierExpectedSequence"
  | .algorithmMemberCount _ => "AlgorithmIdentifierInvalidElementCount"
  | .algorithmExpectedOid => "AlgorithmIdentifierExpectedOid"
  | .serialNumberExpectedInteger => "SerialNumberExpectedInteger"
  | .publicKeyExpectedSequence => "SubjectPublicKeyInfoExpectedSequence"
  | .publicKeyExpectedBitString => "SubjectPublicKeyInfoExpectedBitString"
  | .publicKeyMemberCount _ => "SubjectPublicKeyInfoInvalidElementCount"
  | .keyIdentifierExpectedOctetString => "KeyIdentifierExpectedOctetString"
  | .element cause => "ASN1Error." ++ cause.word

/-- The word for a fault of the contents of an extension or a field. -/
def ContentError.word : ContentError → String
  | .emptySequence _ => "EmptySequence"
  | .expectedSequence _ => "ExpectedSequence"
  | .expectedOctetString _ => "ExpectedOctetString"
  | .expectedBitString _ => "ExpectedBitString"
  | .expectedInteger _ => "ExpectedInteger"
  | .expectedEnumerated _ => "ExpectedEnumerated"
  | .expectedOid _ => "ExpectedOid"
  | .expectedContextSpecific _ => "ExpectedContextSpecific"
  | .unexpectedContextTag .. => "UnexpectedContextTag"
  | .expectedPrimitiveContextTag .. => "ExpectedPrimitiveContextTag"
  | .expectedConstructedContextTag .. => "ExpectedConstructedContextTag"
  | .memberCount .. => "InvalidElementCount"
  | .outOfRange .. => "ValueOutOfRange"
  | .invalidExplicitTag .. => "InvalidExplicitTag"
  | .unknownNameTag _ => "UnknownGeneralNameTag"
  | .invalidIa5 _ => "InvalidIa5String"
  | .invalidDnsName _ => "InvalidDnsName"
  | .invalidRfc822Name _ => "InvalidRfc822Name"
  | .invalidUri _ => "InvalidUri"
  | .ipAddressLength .. => "InvalidIpAddressLength"
  | .invalidMask _ => "InvalidNetmask"
  | .otherNameExpectedExplicitTag => "OtherNameExpectedExplicitTag"
  | .ediPartyNameMissing => "EdiPartyNameMissingPartyName"
  | .nameConstraintsEmpty => "NameConstraintsEmptyContent"
  | .unsupported .. => "UnsupportedOperation"
  | .emptyAlternative _ => "EmptyAlternative"
  | .unknownAttribute .. => "UnknownAttribute"
  | .attributeType .. => "AttributeType"
  | .missingValue _ => "MissingValue"
  | .oidMismatch .. => "OidMismatch"
  | .element cause => "InvalidAsn1." ++ cause.word
  | .pkix cause => "PkixTypes." ++ cause.word

/-- The form of a fault of a part of a certificate. -/
def PkixError.toJson (error : PkixError) : Json :=
  .fault error.word error.message

/-- The form of a fault of the contents of an extension or a field. -/
def ContentError.toJson (error : ContentError) : Json :=
  .fault error.word error.message

end X509
