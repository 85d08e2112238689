/-
**Integers in two's complement.**

An integer of any size is written in the fewest octets of big-endian two's complement. The octets
of a negative number are the complements of those of the number one below its absolute value.

* `Integer.ofOctets_toOctets` — the octets of an integer read back.
* `Integer.toOctets_ne_nil` — even zero has an octet.
-/

import X509.Octets

namespace X509.Integer

/-- Whether the first octet has its sign bit set. -/
def signBit : Octets → Bool
  | [] => false
  | first :: _ => 0x80 ≤ first

/-- Every bit the other way. -/
def complement (octets : Octets) : Octets :=
  octets.map fun octet => ~~~octet

/-- The integer that the octets spell in two's complement; zero for no octets. -/
def ofOctets (octets : Octets) : Int :=
  if signBit octets then .negSucc (complement octets).toNat else .ofNat octets.toNat

/-- The fewest octets of a number whose first octet has no sign bit. -/
def unsignedOctets (value : Nat) : Octets :=
  match Octets.ofNat value with
  | [] => [0]
  | first :: rest => if 0x80 ≤ first then 0 :: first :: rest else first :: rest

/-- The fewest octets of an integer in two's complement. -/
def toOctets : Int → Octets
  | .ofNat value => unsignedOctets value
  | .negSucc value => complement (unsignedOctets value)

theorem complement_complement (octets : Octets) : complement (complement octets) = octets := by
  simp [complement, Function.comp_def]

theorem signBit_unsignedOctets (value : Nat) : signBit (unsignedOctets value) = false := by
  unfold unsignedOctets
  split
  · rfl
  · split
    · rfl
    · next low => simpa [signBit] using low

theorem unsignedOctets_ne_nil (value : Nat) : unsignedOctets value ≠ [] := by
  unfold unsignedOctets
  split
  · simp
  · split <;> simp

theorem toOctets_ne_nil (value : Int) : toOctets value ≠ [] := by
  cases value <;> simp [toOctets, complement, unsignedOctets_ne_nil]

theorem toNat_unsignedOctets (value : Nat) : (unsignedOctets value).toNat = value := by
  have whole := Octets.toNat_ofNat value
  unfold unsignedOctets
  split
  · next none =>
    rw [none] at whole
    exact whole
  · next first rest shape =>
    rw [shape] at whole
    split
    · rw [← whole]
      simp [Octets.toNat]
    · exact whole

theorem signBit_complement {octets : Octets} (filled : octets ≠ []) :
    signBit (complement octets) = !signBit octets := by
  cases octets with
  | nil => exact absurd rfl filled
  | cons first rest =>
    have table : ∀ value : Fin 256, decide (0x80 ≤ ~~~(UInt8.ofNat value.val)) =
        !decide (0x80 ≤ UInt8.ofNat value.val) := by decide +kernel
    simpa [signBit, complement] using table ⟨first.toNat, first.toNat_lt⟩

/-- **The octets of an integer read back.** -/
theorem ofOctets_toOctets (value : Int) : ofOctets (toOctets value) = value := by
  cases value with
  | ofNat value =>
    simp [ofOctets, toOctets, signBit_unsignedOctets, toNat_unsignedOctets]
  | negSucc value =>
    simp [ofOctets, toOctets, signBit_complement (unsignedOctets_ne_nil value),
      signBit_unsignedOctets, complement_complement, toNat_unsignedOctets]

/-- The value as a natural number below `bound`, if it is one. -/
def below? (bound : Nat) : Int → Option Nat
  | .ofNat value => if value < bound then some value else none
  | .negSucc _ => none

/-- The value itself, if it lies in the range of signed numbers of `bits + 1` bits. -/
def signed? (bits : Nat) (value : Int) : Option Int :=
  if -(1 <<< bits : Nat) ≤ value ∧ value < (1 <<< bits : Nat) then some value else none

end X509.Integer
