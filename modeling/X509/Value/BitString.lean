/-
**Bit strings.**

A bit string is octets of which some bits at the end do not count. Its contents octets are the
number of those bits, at most seven, and then the octets.

* `BitString.ofOctets_toOctets` — a bit string with at most seven unused bits reads back.
-/

import X509.Octets

namespace X509

/-- A bit string: its octets and the number of bits at their end that do not count. -/
structure BitString where
  unused : UInt8
  data : Octets
deriving DecidableEq, Repr, Hashable, Inhabited

namespace BitString

/-- Why contents octets are no bit string. -/
inductive Fault where
  | noOctets
  | unusedOutOfRange (unused : UInt8)
deriving DecidableEq, Repr, Inhabited

/-- The wording of a fault. -/
def Fault.message : Fault → String
  | .noOctets => "BIT STRING: no data"
  | .unusedOutOfRange unused =>
    "BIT STRING: unused bits " ++ toString unused.toNat ++ " out of range (must be 0-7)"

/-- The bit string that contents octets spell. -/
def ofOctets : Octets → Except Fault BitString
  | [] => .error .noOctets
  | unused :: data => if 7 < unused then .error (.unusedOutOfRange unused) else .ok { unused, data }

/-- The contents octets of a bit string. -/
def toOctets (bits : BitString) : Octets :=
  bits.unused :: bits.data

/-- The number of bits that count. -/
def length (bits : BitString) : Nat :=
  bits.data.length * 8 - bits.unused.toNat

/-- The bits of an octet, most significant first. -/
def octetBits (octet : UInt8) : List Bool :=
  [0x80, 0x40, 0x20, 0x10, 0x08, 0x04, 0x02, 0x01].map fun mask => octet &&& mask != 0

/-- The bits that count, first bit first. -/
def toBits (bits : BitString) : List Bool :=
  (bits.data.flatMap octetBits).take bits.length

/-- The bits that count as digits. -/
def toText (bits : BitString) : String :=
  String.ofList (bits.toBits.map fun bit => if bit then '1' else '0')

/-- The fewest octets that hold the bits, with zero bits at the end of the last one. -/
def ofBits (bits : List Bool) : BitString :=
  let count := (bits.length + 7) / 8
  let octet (index : Nat) : UInt8 :=
    (List.range 8).foldl
      (fun octet place =>
        if bits.getD (index * 8 + place) false then octet ||| UInt8.ofNat (0x80 >>> place) else octet)
      0
  { unused := UInt8.ofNat (count * 8 - bits.length), data := (List.range count).map octet }

theorem ofOctets_toOctets {bits : BitString} (few : bits.unused ≤ 7) :
    ofOctets bits.toOctets = .ok bits := by
  simp [ofOctets, toOctets, UInt8.not_lt.2 few]

theorem toOctets_of_ofOctets {octets : Octets} {bits : BitString}
    (read : ofOctets octets = .ok bits) : bits.toOctets = octets := by
  cases octets with
  | nil => simp [ofOctets] at read
  | cons unused data =>
    simp only [ofOctets] at read
    split at read
    · cases read
    · obtain rfl := Except.ok.inj read
      rfl

end BitString

end X509
