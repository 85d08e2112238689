/-
**Identifier octets.**

The identifier octet of an encoded value holds a class in its two highest bits, whether the contents
are constructed in the next one, and a number in the low five. Context-specific tags are read apart
into slot and form. Tags of the other classes keep their octet, from which the universal type
follows.

* `Tag.toOctet_ofOctet` — every octet is the octet of the tag read from it.
* `Tag.isConstructed_ofOctet` — whether a tag is constructed is bit `0x20` of its octet.
-/

import X509.Octets

namespace X509

/-- The universal types that have a reading of their own, and any other number. -/
inductive UniversalType where
  | boolean
  | integer
  | bitString
  | octetString
  | null
  | objectIdentifier
  | enumerated
  | utf8String
  | sequence
  | set
  | printableString
  | ia5String
  | utcTime
  | generalizedTime
  | bmpString
  | other (number : UInt8)
deriving DecidableEq, Repr, Hashable, Inhabited

namespace UniversalType

/-- The type with this universal tag number. -/
def ofNumber (number : UInt8) : UniversalType :=
  match number with
  | 0x01 => .boolean
  | 0x02 => .integer
  | 0x03 => .bitString
  | 0x04 => .octetString
  | 0x05 => .null
  | 0x06 => .objectIdentifier
  | 0x0a => .enumerated
  | 0x0c => .utf8String
  | 0x10 => .sequence
  | 0x11 => .set
  | 0x13 => .printableString
  | 0x16 => .ia5String
  | 0x17 => .utcTime
  | 0x18 => .generalizedTime
  | 0x1e => .bmpString
  | number => .other number

/-- The universal tag number of a type. -/
def number : UniversalType → UInt8
  | .boolean => 0x01
  | .integer => 0x02
  | .bitString => 0x03
  | .octetString => 0x04
  | .null => 0x05
  | .objectIdentifier => 0x06
  | .enumerated => 0x0a
  | .utf8String => 0x0c
  | .sequence => 0x10
  | .set => 0x11
  | .printableString => 0x13
  | .ia5String => 0x16
  | .utcTime => 0x17
  | .generalizedTime => 0x18
  | .bmpString => 0x1e
  | .other number => number

/-- The types that have a reading of their own, each with its name. -/
def named : List (UniversalType × String) :=
  [(.boolean, "Boolean"), (.integer, "Integer"), (.bitString, "BitString"),
    (.octetString, "OctetString"), (.null, "Null"), (.objectIdentifier, "ObjectIdentifier"),
    (.enumerated, "Enumerated"), (.utf8String, "UTF8String"), (.sequence, "Sequence"),
    (.set, "Set"), (.printableString, "PrintableString"), (.ia5String, "IA5String"),
    (.utcTime, "UTCTime"), (.generalizedTime, "GeneralizedTime"), (.bmpString, "BMPString")]

/-- The name of a type; a type without a reading of its own shows its number. -/
def name (type : UniversalType) : String :=
  match named.find? (·.1 == type) with
  | some (_, name) => name
  | none => "Unimplemented(" ++ toString type.number.toNat ++ ")"

/-- The type with this name. -/
def ofName? (name : String) : Option UniversalType :=
  (named.find? (·.2 == name)).map Prod.fst

/-- Whether values of the type are encoded as the sequence of their members. -/
def isStructured : UniversalType → Bool
  | .sequence | .set => true
  | _ => false

theorem number_ofNumber (number : UInt8) : (ofNumber number).number = number := by
  unfold ofNumber
  split <;> rfl

end UniversalType

/-- An identifier octet, read. -/
inductive Tag where
  /-- A tag of universal, application or private class, kept as its octet. -/
  | plain (octet : UInt8)
  /-- A context-specific tag: its number, and whether the contents are constructed. -/
  | contextSpecific (slot : UInt8) (constructed : Bool)
deriving DecidableEq, Repr, Hashable, Inhabited

namespace Tag

/-- Set in the octet of a constructed value. -/
def constructedBit : UInt8 := 0x20

/-- The class of context-specific tags. -/
def contextClass : UInt8 := 0x80

/-- The bits that hold the class. -/
def classMask : UInt8 := 0xc0

/-- The bits that hold the number. -/
def numberMask : UInt8 := 0x1f

/-- The tag that an identifier octet spells. -/
def ofOctet (octet : UInt8) : Tag :=
  if octet &&& classMask = contextClass then
    .contextSpecific (octet &&& numberMask) (octet &&& constructedBit == constructedBit)
  else
    .plain octet

/-- The identifier octet of a tag. A slot is cut to the five bits it has there. -/
def toOctet : Tag → UInt8
  | .plain octet => octet
  | .contextSpecific slot constructed =>
    contextClass ||| (if constructed then constructedBit else 0) ||| (slot &&& numberMask)

/-- Whether the contents are a sequence of encoded values. -/
def isConstructed : Tag → Bool
  | .plain octet => octet &&& constructedBit == constructedBit
  | .contextSpecific _ constructed => constructed

/-- The universal type that an identifier octet of any class but the context-specific one stands
for. Application and private tags stand for no known type. -/
def typeOfOctet (octet : UInt8) : UniversalType :=
  if octet &&& classMask = 0 then .ofNumber (octet &&& numberMask) else .other octet

/-- The tag of a universal type. Sequences and sets are constructed, all others primitive. -/
def universal (type : UniversalType) : Tag :=
  .plain (if type.isStructured then type.number ||| constructedBit else type.number)

theorem toOctet_ofOctet (octet : UInt8) : (ofOctet octet).toOctet = octet := by
  have table : ∀ value : Fin 256,
      (ofOctet (UInt8.ofNat value.val)).toOctet = UInt8.ofNat value.val := by decide +kernel
  simpa using table ⟨octet.toNat, octet.toNat_lt⟩

theorem isConstructed_ofOctet (octet : UInt8) :
    (ofOctet octet).isConstructed = (octet &&& constructedBit == constructedBit) := by
  unfold ofOctet
  split <;> rfl

end Tag

end X509
