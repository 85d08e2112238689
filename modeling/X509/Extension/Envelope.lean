/-
**The envelope of an extension.**

An extension is an object identifier, a flag that makes it critical, and the octets of its contents.
The flag is written only when it is set.

* `Envelope.ofElement_toElement` — an envelope reads back from its element.
-/

import X509.Element.Basic
import X509.PkixError

namespace X509

/-- An extension whose contents are octets. -/
structure Envelope where
  oid : ObjectIdentifier
  critical : Bool
  value : Octets
deriving DecidableEq, Repr, Inhabited

namespace Envelope

/-- Reads an envelope. -/
def ofElement : Element → Except PkixError Envelope
  | .sequence [.objectIdentifier oid, .octetString value] => .ok { oid, critical := false, value }
  | .sequence [.objectIdentifier oid, .boolean critical, .octetString value] =>
    .ok { oid, critical, value }
  | .sequence [.objectIdentifier _, _] => .error .extensionExpectedOctetString
  | .sequence [.objectIdentifier _, _, _] => .error .extensionExpectedCriticalOrValue
  | .sequence [_, _] => .error .extensionExpectedOid
  | .sequence [_, _, _] => .error .extensionExpectedOid
  | .sequence members => .error (.extensionMemberCount members.length)
  | _ => .error .extensionExpectedSequence

/-- The element of an envelope. -/
def toElement (envelope : Envelope) : Element :=
  .sequence ([.objectIdentifier envelope.oid] ++
    (if envelope.critical then [.boolean true] else []) ++ [.octetString envelope.value])

theorem ofElement_toElement (envelope : Envelope) :
    ofElement envelope.toElement = .ok envelope := by
  obtain ⟨oid, critical, value⟩ := envelope
  cases critical <;> rfl

end Envelope

end X509
