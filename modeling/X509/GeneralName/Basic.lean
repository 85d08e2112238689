/-
**General names.**

A general name takes one of nine forms. Names of hosts, mailboxes and resources are kept as text,
addresses as bits, directory names by their levels; the forms whose meaning lies elsewhere keep the
octets of what they carry.
-/

import X509.Address.Text
import X509.GeneralName.Kind
import X509.Name.Basic

namespace X509

/-- An address, or a range of addresses given by one of them and a mask. -/
inductive AddressRange where
  | address (address : IpAddress)
  | network (network : IpNetwork)
deriving DecidableEq, Repr, Hashable

/-- A name of a form of its own: the object identifier of the form and the octets of the value. -/
structure OtherName where
  typeId : ObjectIdentifier
  value : Octets
deriving DecidableEq, Repr, Hashable, Inhabited

/-- A party, and who assigned its name. -/
structure EdiPartyName where
  nameAssigner : Option DirectoryString
  partyName : DirectoryString
deriving DecidableEq, Repr, Hashable, Inhabited

/-- A general name. -/
inductive GeneralName where
  | otherName (name : OtherName)
  | rfc822Name (mailbox : String)
  | dnsName (domain : String)
  /-- The octets of an address as a sequence. -/
  | x400Address (octets : Octets)
  | directoryName (name : Name)
  | ediPartyName (name : EdiPartyName)
  | uri (uri : String)
  | ipAddress (range : AddressRange)
  | registeredId (oid : ObjectIdentifier)
deriving DecidableEq, Repr, Hashable

instance : Inhabited GeneralName := ⟨.dnsName ""⟩

/-- A list of general names. -/
structure GeneralNames where
  names : List GeneralName
deriving DecidableEq, Repr, Hashable, Inhabited

namespace AddressRange

/-- Whether it is given by a mask. -/
def isNetwork : AddressRange → Bool
  | .address _ => false
  | .network _ => true

/-- The address itself, or the one that a range is given by. -/
def base : AddressRange → IpAddress
  | .address single => single
  | .network range => range.address

/-- The text of the address or the network. -/
def display : AddressRange → String
  | .address single => single.toText
  | .network range => range.toText

/-- The octets of the address, followed by those of the mask. -/
def toOctets : AddressRange → Octets
  | .address single => single.toOctets
  | .network range => range.address.toOctets ++ range.mask.toOctets

end AddressRange

namespace GeneralName

/-- The form of a name. -/
def kind : GeneralName → NameKind
  | .otherName _ => .other
  | .rfc822Name _ => .rfc822
  | .dnsName _ => .dns
  | .x400Address _ => .x400Address
  | .directoryName _ => .directory
  | .ediPartyName _ => .ediParty
  | .uri _ => .uri
  | .ipAddress _ => .ipAddress
  | .registeredId _ => .registeredId

/-- The name with a word for its form. -/
def display : GeneralName → String
  | .dnsName domain => "DNS:" ++ domain
  | .ipAddress range => "IP Address:" ++ range.display
  | .rfc822Name mailbox => "email:" ++ mailbox
  | .uri text => "URI:" ++ text
  | .directoryName name => "DirName:" ++ name.display
  | .registeredId oid => "Registered ID:" ++ oid.toText
  | .otherName name => "othername:" ++ name.typeId.toText
  | .x400Address _ => "X400Address"
  | .ediPartyName name =>
    match name.nameAssigner with
    | some assigner => "EdiPartyName:" ++ assigner.text ++ "/" ++ name.partyName.text
    | none => "EdiPartyName:" ++ name.partyName.text

end GeneralName

namespace GeneralNames

/-- The list with one name more at its end. -/
def push (names : GeneralNames) (name : GeneralName) : GeneralNames :=
  ⟨names.names ++ [name]⟩

/-- The names with commas between them. -/
def display (names : GeneralNames) : String :=
  String.intercalate ", " (names.names.map GeneralName.display)

end GeneralNames

end X509
