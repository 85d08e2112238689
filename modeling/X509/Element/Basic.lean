/-
**Elements: encoded values read by their universal type.**

Every encoded value of a known type is read into the Lean value it stands for. A context-specific
value keeps its form: constructed, it holds a sequence of all its members, so that an EXPLICIT tag
is a sequence of one; primitive, it holds an octet string of the raw contents, which only the
schema above knows how to read. Anything else is kept as the encoded value it is.
-/

import X509.Element.Error
import X509.Tlv.Basic
import X509.Value.DateTime

namespace X509

/-- A value read by its universal type. -/
inductive Element where
  | boolean (value : Bool)
  | integer (value : Int)
  | enumerated (value : Int)
  | bitString (bits : BitString)
  | octetString (octets : Octets)
  | null
  | objectIdentifier (oid : ObjectIdentifier)
  | utf8String (text : String)
  | sequence (members : List Element)
  | set (members : List Element)
  | printableString (text : String)
  | ia5String (text : String)
  | bmpString (text : String)
  | utcTime (time : DateTime)
  | generalizedTime (time : DateTime)
  | contextSpecific (slot : UInt8) (constructed : Bool) (inner : Element)
  | unread (tlv : Tlv)
deriving Inhabited

namespace Element

/-- A value inside an EXPLICIT context-specific tag. -/
def explicit (slot : UInt8) (inner : Element) : Element :=
  .contextSpecific slot true (.sequence [inner])

/-- The value inside an EXPLICIT context-specific tag, if there is exactly one. -/
def explicitInner? : Element → Option Element
  | .contextSpecific _ true (.sequence [inner]) => some inner
  | .contextSpecific _ true (.sequence _) => none
  | .contextSpecific _ true inner => some inner
  | _ => none

theorem explicitInner?_explicit (slot : UInt8) (inner : Element) :
    (explicit slot inner).explicitInner? = some inner := rfl

end Element

end X509
