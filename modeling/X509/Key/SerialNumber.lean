/-
**Serial numbers.**

A serial number is an integer that is displayed by its octets in two's complement.
-/

import X509.Element.Basic
import X509.PkixError
import X509.Value.Integer

namespace X509

/-- The serial number of a certificate. -/
structure SerialNumber where
  value : Int
deriving DecidableEq, Repr, Inhabited

namespace SerialNumber

/-- The serial number that octets spell in two's complement. -/
def ofOctets (octets : Octets) : SerialNumber :=
  ⟨Integer.ofOctets octets⟩

/-- The octets in hexadecimal with colons between them. -/
def display (serial : SerialNumber) : String :=
  (Integer.toOctets serial.value).toColonHex

/-- Reads a serial number. -/
def ofElement : Element → Except PkixError SerialNumber
  | .integer value => .ok ⟨value⟩
  | _ => .error .serialNumberExpectedInteger

/-- The element of a serial number. -/
def toElement (serial : SerialNumber) : Element :=
  .integer serial.value

theorem ofElement_toElement (serial : SerialNumber) : ofElement serial.toElement = .ok serial := rfl

end SerialNumber

end X509
