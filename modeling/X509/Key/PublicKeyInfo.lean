/-
**Public keys and their identifiers.**

A public key is an algorithm identifier and a bit string. Its key identifier is the SHA-1 digest of
the octets of that bit string.
-/

import X509.Key.Algorithm
import X509.Key.Sha1

namespace X509

/-- A public key with its algorithm. -/
structure PublicKeyInfo where
  algorithm : AlgorithmIdentifier
  key : BitString
deriving Inhabited

namespace PublicKeyInfo

/-- Reads a public key. -/
def ofElement : Element → Except PkixError PublicKeyInfo
  | .sequence [algorithm, key] => do
    let algorithm ← AlgorithmIdentifier.ofElement algorithm
    match key with
    | .bitString key => pure { algorithm, key }
    | _ => throw .publicKeyExpectedBitString
  | .sequence members => .error (.publicKeyMemberCount members.length)
  | _ => .error .publicKeyExpectedSequence

/-- The element of a public key. -/
def toElement (info : PublicKeyInfo) : Element :=
  .sequence [info.algorithm.toElement, .bitString info.key]

/-- Reads the octets of a public key. -/
def ofOctets (octets : Octets) : Except PkixError PublicKeyInfo := do
  let element ← (Element.ofOctets octets).mapError .element
  ofElement element

end PublicKeyInfo

/-- Octets that identify a public key. -/
structure KeyIdentifier where
  octets : Octets
deriving DecidableEq, Repr, Hashable, Inhabited

namespace KeyIdentifier

/-- The identifier of a public key: the digest of its bits. -/
def ofPublicKey (info : PublicKeyInfo) : KeyIdentifier :=
  ⟨Sha1.digest info.key.data⟩

/-- The octets in upper-case hexadecimal with colons between them. -/
def display (identifier : KeyIdentifier) : String :=
  identifier.octets.toUpperColonHex

/-- Reads a key identifier. -/
def ofElement : Element → Except PkixError KeyIdentifier
  | .octetString octets => .ok ⟨octets⟩
  | _ => .error .keyIdentifierExpectedOctetString

/-- The element of a key identifier. -/
def toElement (identifier : KeyIdentifier) : Element :=
  .octetString identifier.octets

theorem ofElement_toElement (identifier : KeyIdentifier) :
    ofElement identifier.toElement = .ok identifier := rfl

end KeyIdentifier

end X509
