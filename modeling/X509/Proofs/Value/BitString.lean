/-
**Bits packed into octets.**

Each octet holds eight bits, the first of them highest. The bits of the octets, one octet after the
other, are the bits that were packed and then zeros, and the count of unused bits cuts these off.

* `BitString.octetBits_octet` — one octet.
* `BitString.toBits_ofBits` — bits that were packed come out again.
-/

import Mathlib.Data.List.Range
import X509.Value.BitString

namespace X509.BitString

/-- The octet that holds eight bits. -/
def octet (bit : Nat → Bool) : UInt8 :=
  (List.range 8).foldl
    (fun octet place => if bit place then octet ||| UInt8.ofNat (0x80 >>> place) else octet) 0

/-- **An octet holds each of its bits in its place.** The bits are arbitrary, so they are named and
all of their values tried. -/
theorem octetBits_octet (bit : Nat → Bool) : octetBits (octet bit) = (List.range 8).map bit := by
  simp only [octet, List.range_succ, List.range_zero, List.nil_append, List.cons_append,
    List.foldl_cons, List.foldl_nil, List.map_cons, List.map_nil]
  generalize bit 0 = b0
  generalize bit 1 = b1
  generalize bit 2 = b2
  generalize bit 3 = b3
  generalize bit 4 = b4
  generalize bit 5 = b5
  generalize bit 6 = b6
  generalize bit 7 = b7
  revert b0 b1 b2 b3 b4 b5 b6 b7
  decide +kernel

theorem ofBits_eq (bits : List Bool) :
    ofBits bits =
      { unused := UInt8.ofNat ((bits.length + 7) / 8 * 8 - bits.length),
        data := (List.range ((bits.length + 7) / 8)).map fun index =>
          octet fun place => bits.getD (index * 8 + place) false } :=
  rfl

/-- The places in groups of one width, group by group. -/
theorem flatMap_places (bit : Nat → Bool) (width count : Nat) :
    ((List.range count).flatMap fun index =>
        (List.range width).map fun place => bit (index * width + place)) =
      (List.range (count * width)).map bit := by
  induction count with
  | zero => simp
  | succ count ih =>
    rw [List.range_succ, List.flatMap_append, ih, Nat.add_mul, Nat.one_mul, List.range_add,
      List.map_append, List.map_map, List.flatMap_singleton]
    rfl

/-- The number of unused bits is at most seven, and so it is counted right. -/
theorem unused_ofBits (bits : List Bool) :
    (ofBits bits).unused.toNat = (bits.length + 7) / 8 * 8 - bits.length ∧
      (ofBits bits).unused ≤ 7 := by
  have few : (bits.length + 7) / 8 * 8 - bits.length ≤ 7 := by omega
  have counted : (ofBits bits).unused.toNat = (bits.length + 7) / 8 * 8 - bits.length :=
    UInt8.toNat_ofNat_of_lt' (Nat.lt_of_le_of_lt few (by decide))
  refine ⟨counted, UInt8.le_iff_toNat_le.2 ?_⟩
  rw [counted]
  exact few

/-- **Bits that were packed come out again.** -/
theorem toBits_ofBits (bits : List Bool) : (ofBits bits).toBits = bits := by
  have whole : (ofBits bits).data.flatMap octetBits =
      (List.range ((bits.length + 7) / 8 * 8)).map (bits.getD · false) := by
    rw [ofBits_eq, List.flatMap_map]
    simp only [octetBits_octet]
    exact flatMap_places (bits.getD · false) 8 _
  have length : (ofBits bits).length = bits.length := by
    rw [BitString.length, (unused_ofBits bits).1, ofBits_eq, List.length_map, List.length_range]
    omega
  rw [toBits, whole, length]
  refine List.ext_getElem ?_ fun index inside there => ?_
  · rw [List.length_take, List.length_map, List.length_range]
    omega
  · simp [there]

end X509.BitString
