/-
**General names as elements.**

Each form has its own context-specific tag. All tags are IMPLICIT but those of a directory name and
of the two strings of an EDI party, which wrap a choice and so are EXPLICIT.

* `GeneralName.ofElement`, `GeneralName.toElement` — one name.
* `GeneralNames.ofElement`, `GeneralNames.toElement?` — a list, which has no element when empty.
-/

import X509.Element.Tagging
import X509.GeneralName.Basic
import X509.GeneralName.Validity
import X509.Name.Codec

namespace X509

open ContentError (fromElement fromPkix)

/-! ### Addresses -/

/-- Reads the octets of an address, or of an address and a mask in the base of a subtree. -/
def AddressRange.ofOctets (context : NameContext) (octets : Octets) :
    Except ContentError AddressRange :=
  let v4 (octets : Octets) := BitVec.ofNat 32 octets.toNat
  let v6 (octets : Octets) := BitVec.ofNat 128 octets.toNat
  match octets.length, context with
  | 4, _ => .ok (.address (.v4 (v4 octets)))
  | 16, _ => .ok (.address (.v6 (v6 octets)))
  | 8, .subtree =>
    let mask := v4 (octets.drop 4)
    match Network.ofMask? (v4 (octets.take 4)) mask with
    | some range => .ok (.network (.v4 range))
    | none => .error (.invalidMask (IpAddress.v4 mask).toText)
  | 32, .subtree =>
    let mask := v6 (octets.drop 16)
    match Network.ofMask? (v6 (octets.take 16)) mask with
    | some range => .ok (.network (.v6 range))
    | none => .error (.invalidMask (IpAddress.v6 mask).toText)
  | actual, context => .error (.ipAddressLength (context == .subtree) actual)

/-! ### Forms with fields -/

/-- Reads a name of a form of its own. -/
def OtherName.ofElement (element : Element) : Except ContentError OtherName := do
  match ← fromElement (element.untag .sequence) with
  | .sequence [.objectIdentifier typeId, .contextSpecific 0 constructed inner] =>
    match (Element.contextSpecific 0 constructed inner).explicitInner? with
    | some value => do
      let value ← fromElement value.toOctets
      pure { typeId, value }
    | none => throw .otherNameExpectedExplicitTag
  | .sequence [.objectIdentifier _, _] => throw .otherNameExpectedExplicitTag
  | .sequence [_, _] => throw (.expectedOid .generalName)
  | .sequence fields => throw (.memberCount .generalName 2 fields.length)
  | _ => throw (.expectedSequence .generalName)

/-- Reads the fields of an EDI party, given what has been read of it. The assigner comes before the
party, and neither comes twice. -/
def EdiPartyName.readFields (assigner party : Option DirectoryString) :
    List Element → Except ContentError (Option DirectoryString × Option DirectoryString)
  | [] => .ok (assigner, party)
  | .contextSpecific slot constructed inner :: fields => do
    match (Element.contextSpecific slot constructed inner).explicitInner? with
    | none => throw (.invalidExplicitTag .generalName slot)
    | some value =>
      if slot = 0 ∧ assigner = none ∧ party = none then
        let string ← fromPkix (DirectoryString.ofElement value)
        readFields (some string) party fields
      else if slot = 1 ∧ party = none then
        let string ← fromPkix (DirectoryString.ofElement value)
        readFields assigner (some string) fields
      else
        throw (.unexpectedContextTag .generalName slot)
  | _ :: _ => .error (.expectedContextSpecific .generalName)

/-- Reads an EDI party. -/
def EdiPartyName.ofElement (element : Element) : Except ContentError EdiPartyName := do
  match ← fromElement (element.untag .sequence) with
  | .sequence fields =>
    match ← readFields none none fields with
    | (nameAssigner, some partyName) => pure { nameAssigner, partyName }
    | (_, none) => throw .ediPartyNameMissing
  | _ => throw (.expectedSequence .generalName)

/-! ### Names -/

namespace GeneralName

/-- Reads the text of a name. -/
def textOf (kind : NameKind) (element : Element) : Except ContentError String :=
  match element.untag .ia5String with
  | .ok (.ia5String text) => .ok text
  | _ => .error (.invalidIa5 kind)

/-- Reads a name of a known form whose tag has the right form. -/
def ofTagged (context : NameContext) (kind : NameKind) (element : Element) :
    Except ContentError GeneralName :=
  match kind with
  | .other => (OtherName.ofElement element).map .otherName
  | .rfc822 => do
    let text ← textOf kind element
    checkRfc822Name context text
    pure (.rfc822Name text)
  | .dns => do
    let text ← textOf kind element
    checkDnsName context text
    pure (.dnsName text)
  | .x400Address => do
    let address ← fromElement (element.untag .sequence)
    let octets ← fromElement address.toOctets
    pure (.x400Address octets)
  | .directory =>
    match element.explicitInner? with
    | some inner => (fromPkix (Name.ofElement inner)).map .directoryName
    | none => .error (.invalidExplicitTag .generalName kind.tag)
  | .ediParty => (EdiPartyName.ofElement element).map .ediPartyName
  | .uri => do
    let text ← textOf kind element
    checkUri context text
    pure (.uri text)
  | .ipAddress => do
    match ← fromElement (element.untag .octetString) with
    | .octetString octets => (AddressRange.ofOctets context octets).map .ipAddress
    | _ => throw (.expectedOctetString .generalName)
  | .registeredId => do
    match ← fromElement (element.untag .objectIdentifier) with
    | .objectIdentifier oid => pure (.registeredId oid)
    | _ => throw (.expectedOid .generalName)

/-- Reads a name by the rules of the context it stands in. -/
def ofElement (context : NameContext) (element : Element) : Except ContentError GeneralName :=
  match element with
  | .contextSpecific slot constructed _ =>
    match NameKind.ofTag? slot with
    | none => .error (.unknownNameTag slot)
    | some kind =>
      if kind.isConstructed && !constructed then
        .error (.expectedConstructedContextTag .generalName slot)
      else if !kind.isConstructed && constructed then
        .error (.expectedPrimitiveContextTag .generalName slot)
      else
        ofTagged context kind element
  | _ => .error (.expectedContextSpecific .generalName)

/-- The name of a host. -/
def dns (text : String) : Except ContentError GeneralName := do
  checkDnsName .plain text
  pure (.dnsName text)

/-- The name of a mailbox or a host. -/
def rfc822 (text : String) : Except ContentError GeneralName := do
  checkRfc822Name .plain text
  pure (.rfc822Name text)

/-- The name of a resource. -/
def resource (text : String) : Except ContentError GeneralName := do
  checkUri .plain text
  pure (.uri text)

/-- The element of a text, which must be ASCII. -/
def textElement (kind : NameKind) (text : String) : Except ContentError Element :=
  if text.toList.all (·.toNat < 0x80) then
    fromElement (Element.implicit kind.tag (.ia5String text))
  else
    .error (.invalidIa5 kind)

/-- The element of a name. -/
def toElement : GeneralName → Except ContentError Element
  | .otherName name => do
    let value ← fromElement (Element.ofOctets name.value)
    let fields := .sequence [.objectIdentifier name.typeId, Element.explicit 0 value]
    fromElement (Element.implicit NameKind.other.tag fields)
  | .rfc822Name text => textElement .rfc822 text
  | .dnsName text => textElement .dns text
  | .uri text => textElement .uri text
  | .x400Address octets => do
    match ← fromElement (Element.ofOctets octets) with
    | .sequence members =>
      fromElement (Element.implicit NameKind.x400Address.tag (.sequence members))
    | _ => throw (.expectedSequence .generalName)
  | .directoryName name => do
    let inner ← fromPkix name.toElement
    pure (Element.explicit NameKind.directory.tag inner)
  | .ediPartyName name =>
    let assigner := name.nameAssigner.toList.map fun string => Element.explicit 0 string.toElement
    let fields := assigner ++ [Element.explicit 1 name.partyName.toElement]
    fromElement (Element.implicit NameKind.ediParty.tag (.sequence fields))
  | .ipAddress range =>
    fromElement (Element.implicit NameKind.ipAddress.tag (.octetString range.toOctets))
  | .registeredId oid =>
    fromElement (Element.implicit NameKind.registeredId.tag (.objectIdentifier oid))

end GeneralName

namespace GeneralNames

/-- Reads a list of names, which must not be empty. -/
def ofElement (context : NameContext) : Element → Except ContentError GeneralNames
  | .sequence [] => .error (.emptySequence .generalNames)
  | .sequence members => (members.mapM (GeneralName.ofElement context)).map .mk
  | _ => .error (.expectedSequence .generalNames)

/-- The element of a list of names; an empty list has none. -/
def toElement? (names : GeneralNames) : Except ContentError (Option Element) :=
  if names.names.isEmpty then
    .ok none
  else
    (names.names.mapM GeneralName.toElement).map fun members => some (.sequence members)

end GeneralNames

end X509
