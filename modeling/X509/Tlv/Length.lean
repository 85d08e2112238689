/-
**Length octets.**

A length below 128 is one octet. A longer one is an octet with the high bit set, whose low seven
bits count the octets that follow, and then that many octets as a big-endian number. Writing uses
as few octets as possible; reading accepts up to eight, leading zeros included.

* `Length.read_write` — a written length reads back, with all that follows it left over.
-/

import X509.Octets
import X509.Tlv.Error

namespace X509.Length

/-- The most octets over which a length may be spread. -/
def maxOctets : Nat := 8

/-- The shortest length octets. -/
def write (length : Nat) : Octets :=
  if length < 0x80 then
    [UInt8.ofNat length]
  else
    let digits := Octets.ofNat length
    UInt8.ofNat (0x80 + digits.length) :: digits

/-- The zero bits above the highest one bit of a positive length, in a word of `maxOctets` octets. -/
def leadingZeros (length : Nat) : Nat :=
  8 * maxOctets - (length.log2 + 1)

/-- The number of octets that a length takes, counted without writing it: one octet, or one that
counts the others and the octets of a word but those that are all zero bits in front. -/
def size (length : Nat) : Nat :=
  if length < 0x80 then 1 else 1 + (maxOctets - leadingZeros length / 8)

/-- The length at the start of the octets, and what follows it. -/
def read : Octets → Except TlvError (Nat × Octets)
  | [] => .error .endOfInput
  | first :: rest =>
    if first = 0x80 then
      .error .indefiniteLength
    else if first < 0x80 then
      .ok (first.toNat, rest)
    else
      let count := first.toNat - 0x80
      if count > maxOctets then
        .error (.lengthTooLarge count)
      else
        match Octets.split? count rest with
        | some (digits, rest) => .ok (digits.toNat, rest)
        | none => .error .endOfInput

/-- Length octets are not free: what follows is shorter. -/
theorem length_lt_of_read {octets rest : Octets} {length : Nat}
    (read : read octets = .ok (length, rest)) : rest.length < octets.length := by
  cases octets with
  | nil => simp [Length.read] at read
  | cons first tail =>
    simp only [Length.read] at read
    split at read
    · cases read
    · split at read
      · obtain ⟨-, rfl⟩ := Prod.mk.inj (Except.ok.inj read)
        simp
      · split at read
        · cases read
        · split at read
          · next digits left cut =>
            obtain ⟨-, rfl⟩ := Prod.mk.inj (Except.ok.inj read)
            obtain ⟨-, rfl⟩ := Octets.split?_eq_some_iff.1 cut
            simp only [List.length_cons, List.length_append]
            omega
          · cases read

/-- **A written length reads back.** -/
theorem read_write {length : Nat} (fits : (Octets.ofNat length).length ≤ maxOctets)
    (rest : Octets) : read (write length ++ rest) = .ok (length, rest) := by
  unfold write
  split
  · next short =>
    have value : (UInt8.ofNat length).toNat = length := by
      simp only [UInt8.toNat_ofNat', Nat.reducePow]
      omega
    have below : UInt8.ofNat length < 0x80 := by
      rw [UInt8.lt_iff_toNat_lt, value]
      exact short
    have differs : UInt8.ofNat length ≠ 0x80 := fun same => by
      rw [same] at below
      exact absurd below (by decide)
    simp [read, differs, below, value]
  · next long =>
    have digits : 0 < (Octets.ofNat length).length := by
      rcases Nat.eq_zero_or_pos (Octets.ofNat length).length with none | some
      · have value := Octets.toNat_ofNat length
        rw [List.length_eq_zero_iff.1 none, Octets.toNat_nil] at value
        omega
      · exact some
    have small : (Octets.ofNat length).length ≤ 8 := fits
    have value : (UInt8.ofNat (0x80 + (Octets.ofNat length).length)).toNat =
        0x80 + (Octets.ofNat length).length := by
      simp only [UInt8.toNat_ofNat', Nat.reducePow]
      omega
    have above : ¬ UInt8.ofNat (0x80 + (Octets.ofNat length).length) < 0x80 := by
      rw [UInt8.lt_iff_toNat_lt, value]
      simp
    have differs : UInt8.ofNat (0x80 + (Octets.ofNat length).length) ≠ 0x80 := fun same => by
      have equal : 0x80 + (Octets.ofNat length).length = 0x80 := by
        rw [← value, same]
        rfl
      omega
    simp only [List.cons_append, read, if_neg differs, if_neg above, value,
      Nat.add_sub_cancel_left, if_neg (Nat.not_lt.2 fits), Octets.split?_append,
      Octets.toNat_ofNat]

end X509.Length
