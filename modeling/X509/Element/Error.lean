/-
**Why an encoded value cannot be read as an element, or an element not be written.**
-/

import X509.Tlv.Error
import X509.Value.BitString
import X509.Value.BmpText
import X509.Value.ObjectIdentifier

namespace X509

/-- What keeps a context-specific tag from being put on or taken off. -/
inductive TaggingFault where
  | alreadyTagged
  | constructedAsPrimitive
  | primitiveAsConstructed
  | constructedContents
deriving DecidableEq, Repr, Inhabited

/-- The wording of a tagging fault. -/
def TaggingFault.message : TaggingFault → String
  | .alreadyTagged => "an already tagged value cannot be tagged implicitly"
  | .constructedAsPrimitive => "constructed value cannot be read as a primitive type"
  | .primitiveAsConstructed => "primitive value cannot be read as a constructed type"
  | .constructedContents => "IMPLICIT primitive tagging requires a primitive inner element"

/-- The forms whose contents must be encoded values. -/
inductive Structured where
  | sequence
  | set
  | contextSpecific
deriving DecidableEq, Repr, Inhabited

/-- The wording of a form. -/
def Structured.message : Structured → String
  | .sequence => "SEQUENCE"
  | .set => "SET"
  | .contextSpecific => "context-specific"

/-- A fault of an element. -/
inductive ElementError where
  | invalidBoolean
  | integerNoOctets
  | enumeratedNoOctets
  | objectIdentifier (fault : ObjectIdentifier.Fault)
  | bitString (fault : BitString.Fault)
  | invalidUtf8
  | invalidPrintable
  | invalidIa5
  | invalidUtcTime
  | invalidGeneralizedTime
  | bmpText (fault : BmpText.Fault)
  | expectedConstructed (form : Structured)
  | tagging (slot : UInt8) (fault : TaggingFault)
  | expectedContextSpecific
  | framing (fault : TlvError)
  | expectedSingle (count : Nat)
deriving DecidableEq, Repr, Inhabited

/-- The wording of a fault. -/
def ElementError.message : ElementError → String
  | .invalidBoolean => "invalid boolean"
  | .integerNoOctets => "INTEGER: no data"
  | .enumeratedNoOctets => "ENUMERATED: no data"
  | .objectIdentifier fault => fault.message
  | .bitString fault => fault.message
  | .invalidUtf8 => "UTF8String: invalid UTF-8"
  | .invalidPrintable => "PrintableString: invalid encoding"
  | .invalidIa5 => "IA5String: invalid encoding"
  | .invalidUtcTime => "UTCTime: invalid format"
  | .invalidGeneralizedTime => "GeneralizedTime: invalid format"
  | .bmpText fault => fault.message
  | .expectedConstructed form => form.message ++ ": expected constructed encoding"
  | .tagging slot fault =>
    "invalid context-specific value: " ++ toString slot.toNat ++ ", " ++ fault.message
  | .expectedContextSpecific => "expected a context-specific value"
  | .framing fault => "invalid DER encoding: " ++ fault.message
  | .expectedSingle count => "expected exactly one DER value, got " ++ toString count

end X509
