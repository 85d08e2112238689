/-
**The reasons a distribution point covers.**

Reasons are a bit string in which every bit has a name. Bit 0 has none, and trailing zero bits are
not written.

* `ReasonFlags.ofBits_toBits` — the bits of a set of reasons stand for that set.
-/

import X509.ContentError
import X509.Element.Basic

namespace X509

/-- A set of revocation reasons. -/
structure ReasonFlags where
  keyCompromise : Bool
  caCompromise : Bool
  affiliationChanged : Bool
  superseded : Bool
  cessationOfOperation : Bool
  certificateHold : Bool
  privilegeWithdrawn : Bool
  aaCompromise : Bool
deriving DecidableEq, Repr, Hashable, Inhabited

namespace ReasonFlags

/-- The flags in the order of their bits, of which the first has no meaning. -/
def toBits (flags : ReasonFlags) : List Bool :=
  [false, flags.keyCompromise, flags.caCompromise, flags.affiliationChanged, flags.superseded,
    flags.cessationOfOperation, flags.certificateHold, flags.privilegeWithdrawn,
    flags.aaCompromise]

/-- The names of the bits. -/
def bitNames : List String :=
  ["Unused", "Key Compromise", "CA Compromise", "Affiliation Changed", "Superseded",
    "Cessation Of Operation", "Certificate Hold", "Privilege Withdrawn", "AA Compromise"]

/-- The set that bits stand for; bits that are not there count as zero. -/
def ofBits (bits : List Bool) : ReasonFlags :=
  let bit (index : Nat) := bits.getD index false
  { keyCompromise := bit 1, caCompromise := bit 2, affiliationChanged := bit 3,
    superseded := bit 4, cessationOfOperation := bit 5, certificateHold := bit 6,
    privilegeWithdrawn := bit 7, aaCompromise := bit 8 }

/-- Whether there is no reason in the set. -/
def isEmpty (flags : ReasonFlags) : Bool :=
  !flags.toBits.contains true

/-- The names of the reasons with commas between them. -/
def display (flags : ReasonFlags) : String :=
  String.intercalate ", " (((flags.toBits.zip bitNames).filter (·.1)).map (·.2))

/-- Bits without the zeros at their end. -/
def trimZeros (bits : List Bool) : List Bool :=
  (bits.reverse.dropWhile (!·)).reverse

/-- Reads a set of reasons. -/
def ofElement : Element → Except ContentError ReasonFlags
  | .bitString bits => .ok (ofBits bits.toBits)
  | _ => .error (.expectedBitString .reasonFlags)

/-- The element of a set of reasons. -/
def toElement (flags : ReasonFlags) : Element :=
  .bitString (BitString.ofBits (trimZeros flags.toBits))

theorem ofBits_toBits (flags : ReasonFlags) : ofBits flags.toBits = flags := rfl

end ReasonFlags

end X509
