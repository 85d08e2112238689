/-
**IMPLICIT tags.**

An IMPLICIT tag replaces the universal tag of a value: a sequence or set keeps its members, any
other value its contents octets. Taking the tag off needs the type that was replaced.
-/

import X509.Element.Reading
import X509.Element.Writing

namespace X509.Element

/-- Puts an IMPLICIT context-specific tag on a value. -/
def implicit (slot : UInt8) : Element → Except ElementError Element
  | .sequence members => .ok (.contextSpecific slot true (.sequence members))
  | .set members => .ok (.contextSpecific slot true (.sequence members))
  | .contextSpecific .. => .error (.tagging slot .alreadyTagged)
  | element => do
    match ← element.toTlv with
    | .leaf _ data => pure (.contextSpecific slot false (.octetString data))
    | .node _ _ children =>
      let members ← ofTlvs children
      pure (.contextSpecific slot true (.sequence members))

/-- The members of the value inside a constructed context-specific tag. -/
def membersOf : Element → List Element
  | .sequence members => members
  | other => [other]

/-- Reads a value under an IMPLICIT context-specific tag as one of the `native` type. -/
def untag (native : UniversalType) : Element → Except ElementError Element
  | .contextSpecific slot true inner =>
    match native with
    | .sequence => .ok (.sequence inner.membersOf)
    | .set => .ok (.set inner.membersOf)
    | _ => .error (.tagging slot .constructedAsPrimitive)
  | .contextSpecific slot false inner =>
    if native.isStructured then
      .error (.tagging slot .primitiveAsConstructed)
    else do
      let data ← match inner with
        | .octetString octets => pure octets
        | other => other.toTlv.map Tlv.contents
      ofTlv (.leaf (.universal native) data)
  | _ => .error .expectedContextSpecific

end X509.Element
