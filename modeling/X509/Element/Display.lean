/-
**Elements in words.**

An element is displayed by its type and its value. The members of a sequence or set, and a value
that was kept unread, are shown with the names of their parts.
-/

import X509.Element.Basic
import X509.Text.Quoted
import X509.Text.Record

namespace X509

open Text (Shown)

/-- Octets as a list of numbers. -/
def Octets.shown (octets : Octets) : Shown :=
  .list (octets.map fun octet => .nat octet.toNat)

/-- A tag with the names of its parts. -/
def Tag.shown : Tag → Shown
  | .plain octet => .applied "Primitive" [.atom (typeOfOctet octet).name, .nat octet.toNat]
  | .contextSpecific slot constructed =>
    .record "ContextSpecific" [("slot", .nat slot.toNat), ("constructed", .bool constructed)]

mutual

/-- An encoded value with the names of its parts. -/
def Tlv.shown : Tlv → Shown
  | .leaf tag data =>
    .record "Tlv" [("tag", tag.shown), ("length", .nat data.length),
      ("value", .applied "Data" [Octets.shown data])]
  | .node tag length children =>
    .record "Tlv" [("tag", tag.shown), ("length", .nat length),
      ("value", .applied "Tlv" [.list (Tlv.shownEach children)])]

/-- Encoded values with the names of their parts. -/
def Tlv.shownEach : List Tlv → List Shown
  | [] => []
  | tlv :: tlvs => Tlv.shown tlv :: Tlv.shownEach tlvs

end

namespace Element

/-- An integer with the name of its part. -/
def shownInteger (value : Int) : Shown :=
  .record "Integer" [("inner", .atom (toString value))]

/-- A text in quotes. -/
def shownText (text : String) : Shown :=
  .atom (Text.quoted text)

mutual

/-- An element with the names of its parts. -/
def shown : Element → Shown
  | .boolean value => .applied "Boolean" [.bool value]
  | .integer value => .applied "Integer" [shownInteger value]
  | .enumerated value => .applied "Enumerated" [shownInteger value]
  | .bitString bits =>
    .applied "BitString" [.record "BitString"
      [("unused", .nat bits.unused.toNat), ("data", Octets.shown bits.data)]]
  | .octetString octets =>
    .applied "OctetString" [.record "OctetString" [("inner", Octets.shown octets)]]
  | .null => .atom "Null"
  | .objectIdentifier oid =>
    .applied "ObjectIdentifier" [.record "ObjectIdentifier"
      [("inner", .list (oid.arcs.map fun arc => .nat arc.toNat))]]
  | .utf8String text => .applied "UTF8String" [shownText text]
  | .sequence members => .applied "Sequence" [.list (shownEach members)]
  | .set members => .applied "Set" [.list (shownEach members)]
  | .printableString text => .applied "PrintableString" [shownText text]
  | .ia5String text => .applied "IA5String" [shownText text]
  | .bmpString text => .applied "BMPString" [shownText text]
  | .utcTime time => .applied "UTCTime" [.atom (time.display 'T')]
  | .generalizedTime time => .applied "GeneralizedTime" [.atom (time.display 'T')]
  | .contextSpecific slot constructed inner =>
    .record "ContextSpecific" [("slot", .nat slot.toNat), ("constructed", .bool constructed),
      ("element", shown inner)]
  | .unread tlv => .applied "Unimplemented" [tlv.shown]

/-- Elements with the names of their parts. -/
def shownEach : List Element → List Shown
  | [] => []
  | element :: elements => shown element :: shownEach elements

end

/-- The words for an element. -/
def display : Element → String
  | .boolean value => "Boolean(" ++ (if value then "true" else "false") ++ ")"
  | .integer value => "Integer(" ++ toString value ++ ")"
  | .enumerated value => "Enumerated(" ++ toString value ++ ")"
  | .bitString bits => "BitString(" ++ bits.toText ++ ")"
  | .octetString octets => "OctetString(" ++ octets.toHex ++ ")"
  | .null => "Null"
  | .objectIdentifier oid => "ObjectIdentifier(" ++ oid.toText ++ ")"
  | .utf8String text => "UTF8String(" ++ text ++ ")"
  | .sequence members => (shown (.sequence members)).render
  | .set members => (shown (.set members)).render
  | .printableString text => "PrintableString(" ++ text ++ ")"
  | .ia5String text => "IA5String(" ++ text ++ ")"
  | .bmpString text => "BMPString(" ++ text ++ ")"
  | .utcTime time => "UTCTime(" ++ time.display ' ' ++ ")"
  | .generalizedTime time => "GeneralizedTime(" ++ time.display ' ' ++ ")"
  | .contextSpecific slot constructed inner =>
    "ContextSpecific(slot: " ++ toString slot.toNat ++ ", constructed: " ++
      (if constructed then "true" else "false") ++ ", element: " ++ display inner ++ ")"
  | .unread tlv => (shown (.unread tlv)).render

end Element

end X509
