/-
**Integers written again.**

Contents octets may repeat the sign of an integer in front; what is written for the integer never
does. So it is no longer than what was read: the first octet tells on which side of the middle the
number lies, and a number below the middle leaves room for the sign.

* `Octets.toNat_cons` — the number that octets spell, from its first digit on.
* `Integer.length_unsignedOctets_le` — a number below the middle.
* `Integer.length_toOctets_ofOctets_le` — integers are written in no more octets than were read.
-/

import X509.Proofs.Octets
import X509.Value.Integer

namespace X509

/-- The first octet is the digit of the highest power. -/
theorem Octets.toNat_cons (first : UInt8) (rest : Octets) :
    toNat (first :: rest) = first.toNat * 256 ^ rest.length + toNat rest := by
  induction rest using List.reverseRecOn with
  | nil => simp [toNat]
  | append_singleton front last ih =>
    rw [← List.cons_append, toNat_concat, ih, toNat_concat, List.length_append,
      List.length_singleton, Nat.pow_succ, ← Nat.mul_assoc, Nat.add_mul, Nat.add_assoc]

namespace Integer

variable {octets : Octets}

/-- **A number below the middle of the numbers of some octets is written in that many.** -/
theorem length_unsignedOctets_le {value count : Nat} (filled : 0 < count)
    (below : value * 2 < 256 ^ count) : (unsignedOctets value).length ≤ count := by
  have whole := Octets.toNat_ofNat value
  unfold unsignedOctets
  split
  · exact filled
  · next first rest shape =>
    split
    · next high =>
      -- The number is at least `0x80` times the power of its first digit.
      have large : 0x80 ≤ first.toNat := UInt8.le_iff_toNat_le.1 high
      rw [shape, Octets.toNat_cons] at whole
      have middle : 0x80 * 256 ^ rest.length ≤ first.toNat * 256 ^ rest.length :=
        Nat.mul_le_mul_right _ large
      have power : 256 ^ (rest.length + 1) < 256 ^ count := by
        rw [Nat.pow_succ]
        omega
      exact (Nat.pow_lt_pow_iff_right (by decide)).1 power
    · rw [← shape]
      exact Octets.length_ofNat_le_iff.2 (by omega)

/-- Octets without the sign bit spell a number below the middle. -/
theorem toNat_lt_of_signBit (positive : signBit octets = false) :
    octets.toNat * 2 < 256 ^ octets.length := by
  cases octets with
  | nil => decide
  | cons first rest =>
    have small : first.toNat < 0x80 := by
      simpa [signBit, UInt8.lt_iff_toNat_lt] using positive
    have tail := Octets.toNat_lt rest
    have middle : (first.toNat + 1) * 256 ^ rest.length ≤ 0x80 * 256 ^ rest.length :=
      Nat.mul_le_mul_right _ small
    rw [Octets.toNat_cons, List.length_cons, Nat.pow_succ]
    rw [Nat.add_mul] at middle
    omega

/-- **An integer is written in no more octets than it was read from.** -/
theorem length_toOctets_ofOctets_le (filled : octets ≠ []) :
    (toOctets (ofOctets octets)).length ≤ octets.length := by
  have some : 0 < octets.length := List.length_pos_iff.2 filled
  unfold ofOctets
  cases sign : signBit octets with
  | false =>
    rw [if_neg Bool.false_ne_true]
    exact length_unsignedOctets_le some (toNat_lt_of_signBit sign)
  | true =>
    have positive : signBit (complement octets) = false := by
      rw [signBit_complement filled, sign]
      rfl
    have size : (complement octets).length = octets.length := List.length_map _
    have below := toNat_lt_of_signBit positive
    rw [size] at below
    rw [if_pos rfl, toOctets, complement, List.length_map]
    exact length_unsignedOctets_le some below

end Integer

end X509
