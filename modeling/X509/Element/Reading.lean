/-
**Reading elements from encoded values.**

* `Element.ofTlv` — reads an encoded value and all values inside it.
* `Element.ofOctets` — reads octets that hold exactly one encoded value.
-/

import X509.Element.Basic
import X509.Tlv.Parser
import X509.Value.Integer

namespace X509.Element

/-- A text of ASCII characters only. -/
def asciiText (fault : ElementError) (data : Octets) : Except ElementError String :=
  if data.isAscii then
    match data.toText? with
    | some text => .ok text
    | none => .error fault
  else
    .error fault

/-- A time in one of the written forms. -/
def timeText (fault : ElementError) (read? : List Char → Option DateTime) (data : Octets) :
    Except ElementError DateTime :=
  match data.toText? with
  | some text =>
    match read? text.toList with
    | some time => .ok time
    | none => .error fault
  | none => .error fault

/-- The element of a universal type that is encoded as plain data. A type without a reading of its
own keeps the encoded value. -/
def ofData (type : UniversalType) (tag : Tag) (data : Octets) : Except ElementError Element :=
  match type with
  | .boolean =>
    match data with
    | [0x00] => .ok (.boolean false)
    | [0xff] => .ok (.boolean true)
    | _ => .error .invalidBoolean
  | .integer =>
    if data.isEmpty then .error .integerNoOctets else .ok (.integer (Integer.ofOctets data))
  | .enumerated =>
    if data.isEmpty then .error .enumeratedNoOctets else .ok (.enumerated (Integer.ofOctets data))
  | .bitString => ((BitString.ofOctets data).mapError .bitString).map .bitString
  | .octetString => .ok (.octetString data)
  | .null => .ok .null
  | .objectIdentifier =>
    ((ObjectIdentifier.ofOctets data).mapError .objectIdentifier).map .objectIdentifier
  | .utf8String =>
    match data.toText? with
    | some text => .ok (.utf8String text)
    | none => .error .invalidUtf8
  | .printableString => (asciiText .invalidPrintable data).map .printableString
  | .ia5String => (asciiText .invalidIa5 data).map .ia5String
  | .bmpString => ((BmpText.ofOctets data).mapError .bmpText).map .bmpString
  | .utcTime => (timeText .invalidUtcTime DateTime.ofShortText? data).map .utcTime
  | .generalizedTime =>
    (timeText .invalidGeneralizedTime DateTime.ofLongText? data).map .generalizedTime
  | .sequence => .error (.expectedConstructed .sequence)
  | .set => .error (.expectedConstructed .set)
  | .other _ => .ok (.unread (.leaf tag data))

mutual

/-- Reads an encoded value by its tag. -/
def ofTlv : Tlv → Except ElementError Element
  | .leaf (.contextSpecific slot false) data =>
    .ok (.contextSpecific slot false (.octetString data))
  | .leaf (.contextSpecific _ true) _ => .error (.expectedConstructed .contextSpecific)
  | .leaf (.plain octet) data => ofData (Tag.typeOfOctet octet) (.plain octet) data
  | .node (.contextSpecific slot false) _ _ =>
    .ok (.contextSpecific slot false (.octetString []))
  | .node (.contextSpecific slot true) _ children =>
    (ofTlvs children).map fun members => .contextSpecific slot true (.sequence members)
  | .node (.plain octet) length children =>
    match Tag.typeOfOctet octet with
    | .sequence => (ofTlvs children).map .sequence
    | .set => (ofTlvs children).map .set
    | _ => .ok (.unread (.node (.plain octet) length children))

/-- Reads encoded values one by one. -/
def ofTlvs : List Tlv → Except ElementError (List Element)
  | [] => .ok []
  | tlv :: tlvs => do
    let first ← ofTlv tlv
    let others ← ofTlvs tlvs
    pure (first :: others)

end

/-- Reads octets as the elements they are made of. -/
def listOfOctets (octets : Octets) : Except ElementError (List Element) := do
  let tlvs ← (Tlv.readAll octets).mapError .framing
  ofTlvs tlvs

/-- Reads octets that hold exactly one encoded value. -/
def ofOctets (octets : Octets) : Except ElementError Element := do
  match ← (Tlv.readAll octets).mapError .framing with
  | [tlv] => ofTlv tlv
  | tlvs => .error (.expectedSingle tlvs.length)

end X509.Element
