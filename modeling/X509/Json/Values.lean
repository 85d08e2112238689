/-
**JSON forms of plain values, keys and serial numbers.**

Integers and object identifiers are strings, octet strings hexadecimal text, raw encodings arrays of
numbers. An algorithm whose parameters cannot be encoded has no form.
-/

import X509.Element.Writing
import X509.Extension.Envelope
import X509.Json.Basic
import X509.Key.PublicKeyInfo
import X509.Key.SerialNumber
import X509.Octets.HexText
import X509.Text.Decimal

namespace X509

/-- An integer as a decimal string. -/
def Integer.toJson (value : Int) : Json :=
  .string (toString value)

/-- Reads an integer. -/
def Integer.ofJson? (json : Json) : Option Int :=
  json.string?.bind fun text => Text.integer? text.toList

/-- An object identifier as dotted text. -/
def ObjectIdentifier.toJson (oid : ObjectIdentifier) : Json :=
  .string oid.toText

/-- Reads an object identifier. -/
def ObjectIdentifier.ofJson? (json : Json) : Option ObjectIdentifier :=
  json.string?.bind fun text => (ofText text).toOption

/-- An octet string as hexadecimal text. -/
def Octets.toJson (octets : Octets) : Json :=
  .string octets.toHex

/-- Reads an octet string. -/
def Octets.ofJson? (json : Json) : Option Octets :=
  json.string?.bind readHex?

/-- The fields of a bit string. -/
def BitString.toJson (bits : BitString) : Json :=
  .object [("unused", .nat bits.unused.toNat), ("data", .octets bits.data)]

/-- The octets of a serial number as hexadecimal text with colons. -/
def SerialNumber.toJson (serial : SerialNumber) : Json :=
  .string serial.display

/-- Reads a serial number, whose field is an integer. -/
def SerialNumber.ofJson? (json : Json) : Option SerialNumber := do
  let value ← json.field1? "inner"
  let value ← Json.required? Integer.ofJson? value
  pure ⟨value⟩

/-- The field of a key identifier. -/
def KeyIdentifier.toJson (identifier : KeyIdentifier) : Json :=
  .object [("octets", Octets.toJson identifier.octets)]

/-- Reads a key identifier. -/
def KeyIdentifier.ofJson? (json : Json) : Option KeyIdentifier := do
  let octets ← json.field1? "octets"
  let octets ← Json.required? Octets.ofJson? octets
  pure ⟨octets⟩

/-- NULL by its name, and other parameters by the hexadecimal text of their octets. -/
def AlgorithmParameters.toJson? : AlgorithmParameters → Option Json
  | .null => some (.string "Null")
  | .element inner => inner.toOctets.toOption.map Octets.toJson

/-- The fields of an algorithm identifier; absent parameters are left out. -/
def AlgorithmIdentifier.toJson? (identifier : AlgorithmIdentifier) : Option Json := do
  let algorithm := ("algorithm", identifier.algorithm.toJson)
  match identifier.parameters with
  | none => pure (.object [algorithm])
  | some parameters =>
    let parameters ← parameters.toJson?
    pure (.object [algorithm, ("parameters", parameters)])

/-- The fields of a public key. -/
def PublicKeyInfo.toJson? (info : PublicKeyInfo) : Option Json := do
  let algorithm ← info.algorithm.toJson?
  pure (.object [("algorithm", algorithm), ("subject_public_key", info.key.toJson)])

/-- The fields of an extension envelope. -/
def Envelope.toJson (envelope : Envelope) : Json :=
  .object [("id", envelope.oid.toJson), ("critical", .bool envelope.critical),
    ("value", Octets.toJson envelope.value)]

/-- Reads an extension envelope. -/
def Envelope.ofJson? (json : Json) : Option Envelope := do
  let (id, critical, value) ← json.fields3? "id" "critical" "value"
  let oid ← Json.required? ObjectIdentifier.ofJson? id
  let critical ← Json.required? Json.bool? critical
  let value ← Json.required? Octets.ofJson? value
  pure { oid, critical, value }

theorem Octets.ofJson?_toJson (octets : Octets) : ofJson? (toJson octets) = some octets := by
  simp [ofJson?, toJson, Json.string?, readHex?_toHex]

theorem KeyIdentifier.ofJson?_toJson (identifier : KeyIdentifier) :
    ofJson? identifier.toJson = some identifier := by
  simp [ofJson?, toJson, Json.field1?, Json.fields?, Json.member?, Json.required?,
    Octets.ofJson?_toJson]

end X509
