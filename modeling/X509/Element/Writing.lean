/-
**Writing elements as encoded values.**

Every length is written in the shortest form, integers and object identifiers in the fewest octets.
An element that was kept as an encoded value is written as it is.

* `Element.toTlv` — the encoded value of an element.
* `Element.toOctets` — its octets.
-/

import X509.Element.Basic
import X509.Value.Integer

namespace X509.Element

/-- An encoded value of a universal type with plain contents. -/
def leafOf (type : UniversalType) (data : Octets) : Tlv :=
  .leaf (.universal type) data

mutual

/-- The encoded value of an element. -/
def toTlv : Element → Except ElementError Tlv
  | .boolean value => .ok (leafOf .boolean [if value then 0xff else 0x00])
  | .integer value => .ok (leafOf .integer (Integer.toOctets value))
  | .enumerated value => .ok (leafOf .enumerated (Integer.toOctets value))
  | .bitString bits => .ok (leafOf .bitString bits.toOctets)
  | .octetString octets => .ok (leafOf .octetString octets)
  | .null => .ok (leafOf .null [])
  | .objectIdentifier oid =>
    (oid.toOctets.mapError .objectIdentifier).map (leafOf .objectIdentifier)
  | .utf8String text => .ok (leafOf .utf8String (.ofText text))
  | .printableString text => .ok (leafOf .printableString (.ofText text))
  | .ia5String text => .ok (leafOf .ia5String (.ofText text))
  | .bmpString text => ((BmpText.toOctets text).mapError .bmpText).map (leafOf .bmpString)
  | .utcTime time => .ok (leafOf .utcTime (.ofText (String.ofList time.shortText)))
  | .generalizedTime time =>
    .ok (leafOf .generalizedTime (.ofText (String.ofList time.longText)))
  | .sequence members => (toTlvs members).map (Tlv.ofChildren (.universal .sequence))
  | .set members => (toTlvs members).map (Tlv.ofChildren (.universal .set))
  | .contextSpecific slot true (.sequence members) =>
    (toTlvs members).map (Tlv.ofChildren (.contextSpecific slot true))
  | .contextSpecific slot true inner =>
    (toTlv inner).map fun tlv => Tlv.ofChildren (.contextSpecific slot true) [tlv]
  | .contextSpecific slot false inner => do
    match ← toTlv inner with
    | .leaf _ data => pure (.leaf (.contextSpecific slot false) data)
    | .node .. => throw (.tagging slot .constructedContents)
  | .unread tlv => .ok tlv

/-- The encoded values of some elements. -/
def toTlvs : List Element → Except ElementError (List Tlv)
  | [] => .ok []
  | element :: elements => do
    let first ← toTlv element
    let others ← toTlvs elements
    pure (first :: others)

end

/-- The octets of an element. -/
def toOctets (element : Element) : Except ElementError Octets :=
  element.toTlv.map Tlv.write

end X509.Element
