/-
**Why octets are no sequence of encoded values.**
-/

namespace X509

/-- A fault in the framing of encoded values. -/
inductive TlvError where
  /-- Fewer octets are left than an identifier, a length or contents need. -/
  | endOfInput
  /-- The length is left open. -/
  | indefiniteLength
  /-- The length is spread over more octets than a length may have. -/
  | lengthTooLarge (octets : Nat)
  /-- The tag number does not fit into the identifier octet. -/
  | highTagNumber (octet : UInt8)
deriving DecidableEq, Repr, Inhabited

/-- The wording of a fault. -/
def TlvError.message : TlvError → String
  | .endOfInput => "parser error Eof"
  | .indefiniteLength => "indefinite length is not allowed in DER"
  | .lengthTooLarge octets => "length field of " ++ toString octets ++ " octets is too large"
  | .highTagNumber octet =>
    "high tag number form is not supported: 0x" ++
      String.ofList [Nat.digitChar (octet.toNat / 16), Nat.digitChar (octet.toNat % 16)]

end X509
