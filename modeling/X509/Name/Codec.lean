/-
**Names as elements.**

A name is a sequence of sets of sequences of two. Reading keeps the order at every level and every
value, whether it is a string or not.

* `Name.ofElement`, `Name.toElement` — the two directions for a whole name.
-/

import X509.Element.Reading
import X509.Element.Writing
import X509.Name.Basic

namespace X509

/-- Reads the value of an attribute. Strings are kept as text; an octet string, like every element
that is no string, is kept encoded. -/
def AttributeValue.ofElement (element : Element) : Except PkixError AttributeValue :=
  let encoded := (element.toOctets.mapError .element).map .encoded
  match element with
  | .octetString _ => encoded
  | _ =>
    match DirectoryString.ofElement element with
    | .ok string => .ok (.text string)
    | .error _ => encoded

/-- The element of the value of an attribute. -/
def AttributeValue.toElement : AttributeValue → Except PkixError Element
  | .text string => .ok string.toElement
  | .encoded octets => (Element.ofOctets octets).mapError .element

/-- Reads an attribute. -/
def Attribute.ofElement : Element → Except PkixError Attribute
  | .sequence [.objectIdentifier type, value] => do
    let value ← AttributeValue.ofElement value
    pure { type, value }
  | .sequence [_, _] => .error .attributeExpectedOid
  | .sequence _ => .error .attributeMemberCount
  | _ => .error .attributeExpectedSequence

/-- The element of an attribute. -/
def Attribute.toElement (attr : Attribute) : Except PkixError Element := do
  let value ← attr.value.toElement
  pure (.sequence [.objectIdentifier attr.type, value])

/-- Reads a relative name. -/
def RelativeName.ofElement : Element → Except PkixError RelativeName
  | .set members => do
    let attributes ← members.mapM Attribute.ofElement
    ofAttributes attributes
  | _ => .error .rdnExpectedSet

/-- The element of a relative name. -/
def RelativeName.toElement (relative : RelativeName) : Except PkixError Element :=
  (relative.attributes.mapM Attribute.toElement).map .set

/-- Reads a name. -/
def Name.ofElement : Element → Except PkixError Name
  | .sequence members => (members.mapM RelativeName.ofElement).map .mk
  | _ => .error .nameExpectedSequence

/-- The element of a name. -/
def Name.toElement (name : Name) : Except PkixError Element :=
  (name.levels.mapM RelativeName.toElement).map .sequence

end X509
