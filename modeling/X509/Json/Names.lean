/-
**JSON forms of names.**

A directory string is its text alone and reads back as UTF-8. An attribute value is a text or an
array of octets. A general name is an alternative named for its form.
-/

import X509.GeneralName.Basic
import X509.Json.Values

namespace X509

/-! ### Directory names -/

/-- The text of a directory string. -/
def DirectoryString.toJson (string : DirectoryString) : Json :=
  .string string.text

/-- Reads the name of a string type, alone or as an alternative without content. -/
def StringKind.ofJson? (json : Json) : Option StringKind :=
  let name? := match json with
    | .string name => some name
    | .object [(name, .null)] => some name
    | _ => none
  name?.bind fun name => (named.find? (·.2 == name)).map Prod.fst

/-- Reads a directory string. -/
def DirectoryString.ofJson? (json : Json) : Option DirectoryString :=
  json.string?.map utf8

/-- A text, or octets as numbers. -/
def AttributeValue.toJson : AttributeValue → Json
  | .text string => string.toJson
  | .encoded octets => .octets octets

/-- Reads an attribute value. -/
def AttributeValue.ofJson? (json : Json) : Option AttributeValue :=
  match DirectoryString.ofJson? json with
  | some string => some (.text string)
  | none => json.octets?.map .encoded

/-- The fields of an attribute. -/
def Attribute.toJson (attr : Attribute) : Json :=
  .object [("attribute_type", attr.type.toJson), ("attribute_value", attr.value.toJson)]

/-- Reads an attribute. -/
def Attribute.ofJson? (json : Json) : Option Attribute := do
  let (type, value) ← json.fields2? "attribute_type" "attribute_value"
  let type ← Json.required? ObjectIdentifier.ofJson? type
  let value ← Json.required? AttributeValue.ofJson? value
  pure { type, value }

/-- The field of a relative name. -/
def RelativeName.toJson (relative : RelativeName) : Json :=
  .object [("attributes", .list Attribute.toJson relative.attributes)]

/-- Reads a relative name. -/
def RelativeName.ofJson? (json : Json) : Option RelativeName := do
  let attributes ← json.field1? "attributes"
  let attributes ← Json.required? (Json.list? Attribute.ofJson?) attributes
  pure ⟨attributes⟩

/-- The field of a name. -/
def Name.toJson (name : Name) : Json :=
  .object [("rdn_sequence", .list RelativeName.toJson name.levels)]

/-- Reads a name. -/
def Name.ofJson? (json : Json) : Option Name := do
  let levels ← json.field1? "rdn_sequence"
  let levels ← Json.required? (Json.list? RelativeName.ofJson?) levels
  pure ⟨levels⟩

/-! ### General names -/

/-- The forms of names with the words for them. -/
def NameKind.word : NameKind → String
  | .other => "Other"
  | .rfc822 => "Rfc822"
  | .dns => "Dns"
  | .x400Address => "X400Address"
  | .directory => "Directory"
  | .ediParty => "EdiParty"
  | .uri => "Uri"
  | .ipAddress => "IpAddress"
  | .registeredId => "Oid"

/-- The word for a form. -/
def NameKind.toJson (kind : NameKind) : Json :=
  .string kind.word

/-- An address or a network as an alternative. -/
def AddressRange.toJson : AddressRange → Json
  | .address single => .alternative "Address" (.string single.toText)
  | .network range => .alternative "Network" (.string range.toText)

/-- Reads an address or a network. -/
def AddressRange.ofJson? (json : Json) : Option AddressRange := do
  let (name, content) ← json.alternative?
  let text ← content.string?
  match name with
  | "Address" => (IpAddress.ofText? text.toList).map .address
  | "Network" => (IpNetwork.ofText? text.toList).map .network
  | _ => none

/-- The fields of a name of a form of its own. -/
def OtherName.toJson (name : OtherName) : Json :=
  .object [("type_id", name.typeId.toJson), ("value", .octets name.value)]

/-- Reads a name of a form of its own. -/
def OtherName.ofJson? (json : Json) : Option OtherName := do
  let (typeId, value) ← json.fields2? "type_id" "value"
  let typeId ← Json.required? ObjectIdentifier.ofJson? typeId
  let value ← Json.required? Json.octets? value
  pure { typeId, value }

/-- The fields of an EDI party. -/
def EdiPartyName.toJson (name : EdiPartyName) : Json :=
  .object [("name_assigner", .option DirectoryString.toJson name.nameAssigner),
    ("party_name", name.partyName.toJson)]

/-- Reads an EDI party. -/
def EdiPartyName.ofJson? (json : Json) : Option EdiPartyName := do
  let (nameAssigner, partyName) ← json.fields2? "name_assigner" "party_name"
  let nameAssigner ← Json.optional? DirectoryString.ofJson? nameAssigner
  let partyName ← Json.required? DirectoryString.ofJson? partyName
  pure { nameAssigner, partyName }

/-- A general name as an alternative. -/
def GeneralName.toJson : GeneralName → Json
  | .otherName name => .alternative "OtherName" name.toJson
  | .rfc822Name mailbox => .alternative "Rfc822Name" (.string mailbox)
  | .dnsName domain => .alternative "DnsName" (.string domain)
  | .x400Address octets => .alternative "X400Address" (.octets octets)
  | .directoryName name => .alternative "DirectoryName" name.toJson
  | .ediPartyName name => .alternative "EdiPartyName" name.toJson
  | .uri text => .alternative "Uri" (.string text)
  | .ipAddress range => .alternative "IpAddress" range.toJson
  | .registeredId oid => .alternative "RegisteredId" oid.toJson

/-- Reads a general name. Nothing is validated. -/
def GeneralName.ofJson? (json : Json) : Option GeneralName := do
  let (name, content) ← json.alternative?
  match name with
  | "OtherName" => (OtherName.ofJson? content).map .otherName
  | "Rfc822Name" => content.string?.map .rfc822Name
  | "DnsName" => content.string?.map .dnsName
  | "X400Address" => content.octets?.map .x400Address
  | "DirectoryName" => (Name.ofJson? content).map .directoryName
  | "EdiPartyName" => (EdiPartyName.ofJson? content).map .ediPartyName
  | "Uri" => content.string?.map .uri
  | "IpAddress" => (AddressRange.ofJson? content).map .ipAddress
  | "RegisteredId" => (ObjectIdentifier.ofJson? content).map .registeredId
  | _ => none

/-- The field of a list of names. -/
def GeneralNames.toJson (names : GeneralNames) : Json :=
  .object [("names", .list GeneralName.toJson names.names)]

/-- Reads a list of names. -/
def GeneralNames.ofJson? (json : Json) : Option GeneralNames := do
  let names ← json.field1? "names"
  let names ← Json.required? (Json.list? GeneralName.ofJson?) names
  pure ⟨names⟩

end X509
