/-
**Octets, numbers and texts.**

How many octets a number needs, and that a fixed number of octets loses nothing. A text whose octets
are ASCII has ASCII characters only, since every other character starts with a larger octet.

* `Octets.length_ofNat_le_iff`, `Octets.length_ofNat` — the shortest form of a number.
* `Octets.ofNatFixed_toNat`, `Octets.toNat_ofNatFixed` — octets are the fixed form of the number
  they spell, and that form reads back.
* `Octets.length_ofText_of_ascii`, `Octets.ascii_of_toText?`, `Octets.isAscii_ofText` — ASCII texts
  and their octets.
-/

import Mathlib.Algebra.Ring.Nat
import Mathlib.Data.List.Induction
import X509.Octets

namespace X509.Octets

/-! ### Numbers -/

theorem toNat_lt (octets : Octets) : octets.toNat < 256 ^ octets.length := by
  induction octets using List.reverseRecOn with
  | nil => decide
  | append_singleton front last ih =>
    have octet := last.toNat_lt
    rw [toNat_concat, List.length_append, List.length_singleton, Nat.pow_succ]
    omega

/-- **The shortest form of a number has as many octets as the number needs.** -/
theorem length_ofNat_le_iff {value count : Nat} :
    (ofNat value).length ≤ count ↔ value < 256 ^ count := by
  constructor
  · intro short
    have below := toNat_lt (ofNat value)
    rw [toNat_ofNat] at below
    exact Nat.lt_of_lt_of_le below (Nat.pow_le_pow_right (by decide) short)
  · intro fits
    rw [ofNat, List.length_reverse]
    induction count generalizing value with
    | zero =>
      obtain rfl : value = 0 := Nat.lt_one_iff.1 fits
      rw [digits_zero]
      exact Nat.le_refl 0
    | succ count ih =>
      rcases Nat.eq_zero_or_pos value with rfl | positive
      · rw [digits_zero]
        exact Nat.zero_le _
      · rw [digits_of_pos positive, List.length_cons]
        refine Nat.succ_le_succ (ih ?_)
        rw [Nat.pow_succ] at fits
        omega

/-- **The shortest form of a positive number has an octet for every eight of its bits.** -/
theorem length_ofNat {value : Nat} (positive : 0 < value) :
    (ofNat value).length = value.log2 / 8 + 1 := by
  have nonzero : value ≠ 0 := by omega
  have power (count : Nat) : 256 ^ count = 2 ^ (8 * count) := by
    rw [Nat.pow_mul]
  have enough : (ofNat value).length ≤ value.log2 / 8 + 1 := by
    rw [length_ofNat_le_iff, power, ← Nat.log2_lt nonzero]
    omega
  have needed : ¬ (ofNat value).length ≤ value.log2 / 8 := by
    rw [length_ofNat_le_iff, power, ← Nat.log2_lt nonzero]
    omega
  omega

theorem ofNatFixed_succ (count value : Nat) :
    ofNatFixed (count + 1) value =
      ofNatFixed count (value / 256) ++ [UInt8.ofNat (value % 256)] := by
  have place (index : Nat) : value >>> (8 * (index + 1)) = (value / 256) >>> (8 * index) := by
    rw [Nat.mul_succ, Nat.add_comm, Nat.shiftRight_add, Nat.shiftRight_eq_div_pow value 8]
  simp [ofNatFixed, List.range_succ_eq_map, Function.comp_def, place]

/-- **Octets are the fixed form of the number they spell.** -/
theorem ofNatFixed_toNat (octets : Octets) : ofNatFixed octets.length octets.toNat = octets := by
  induction octets using List.reverseRecOn with
  | nil => rfl
  | append_singleton front last ih =>
    have octet := last.toNat_lt
    have high : (toNat front * 256 + last.toNat) / 256 = toNat front := by omega
    have low : (toNat front * 256 + last.toNat) % 256 = last.toNat := by omega
    rw [toNat_concat, List.length_append, List.length_singleton, ofNatFixed_succ, high, low, ih,
      UInt8.ofNat_toNat]

/-- **The fixed form of a number reads back,** if the number fits. -/
theorem toNat_ofNatFixed {count value : Nat} (fits : value < 256 ^ count) :
    toNat (ofNatFixed count value) = value := by
  induction count generalizing value with
  | zero =>
    obtain rfl : value = 0 := Nat.lt_one_iff.1 fits
    rfl
  | succ count ih =>
    have high : value / 256 < 256 ^ count := by
      rw [Nat.pow_succ] at fits
      omega
    have low : (UInt8.ofNat (value % 256)).toNat = value % 256 := by
      simp [UInt8.toNat_ofNat']
    rw [ofNatFixed_succ, toNat_concat, ih high, low]
    omega

theorem length_ofNatFixed (count value : Nat) : (ofNatFixed count value).length = count := by
  simp [ofNatFixed]

/-! ### Texts -/

theorem ofText_eq_flatMap (text : String) :
    ofText text = text.toList.flatMap String.utf8EncodeChar := by
  rw [ofText, String.toUTF8, ← String.utf8Encode_toList]
  simp [List.utf8Encode]

/-- A text has an octet for each of its characters at least. -/
theorem length_toList_le (text : String) : text.toList.length ≤ (ofText text).length := by
  rw [ofText_eq_flatMap, List.length_flatMap]
  induction text.toList with
  | nil => exact Nat.le_refl 0
  | cons c rest ih =>
    have one := c.utf8Size_pos
    rw [List.map_cons, List.sum_cons, List.length_cons, String.length_utf8EncodeChar]
    omega

/-- An ASCII text has an octet for each of its characters. -/
theorem length_ofText_of_ascii {text : String} (ascii : ∀ c ∈ text.toList, c.toNat < 0x80) :
    (ofText text).length = text.toList.length := by
  rw [ofText_eq_flatMap, List.length_flatMap]
  generalize text.toList = characters at ascii ⊢
  induction characters with
  | nil => rfl
  | cons c rest ih =>
    obtain ⟨here, others⟩ := List.forall_mem_cons.1 ascii
    have one : c.utf8Size = 1 := Char.utf8Size_eq_one_iff.2 (Nat.le_of_lt_succ here)
    rw [List.map_cons, List.sum_cons, List.length_cons, String.length_utf8EncodeChar, one,
      ih others, Nat.add_comm]

/-- A character beyond ASCII starts with an octet beyond ASCII. -/
theorem exists_mem_utf8EncodeChar {c : Char} (beyond : 0x80 ≤ c.toNat) :
    ∃ octet ∈ String.utf8EncodeChar c, ¬ octet < 0x80 := by
  have large {value : Nat} (least : 0x80 ≤ value) (most : value < 0x100) :
      ¬ UInt8.ofNat value < 0x80 := by
    rw [UInt8.lt_iff_toNat_lt, UInt8.toNat_ofNat_of_lt' most]
    exact Nat.not_lt.2 least
  have bound : 0x80 ≤ c.val.toNat := beyond
  unfold String.utf8EncodeChar
  dsimp only
  split
  · omega
  · split
    · exact ⟨_, List.mem_cons_self, large (by omega) (by omega)⟩
    · split
      · exact ⟨_, List.mem_cons_self, large (by omega) (by omega)⟩
      · exact ⟨_, List.mem_cons_self, large (by omega) (by omega)⟩

/-- **ASCII octets spell ASCII texts.** -/
theorem ascii_of_toText? {octets : Octets} {text : String} (ascii : octets.isAscii = true)
    (read : octets.toText? = some text) : text.toList.all (·.toNat < 0x80) = true := by
  rw [List.all_eq_true]
  intro c inside
  by_cases beyond : 0x80 ≤ c.toNat
  · obtain ⟨octet, member, large⟩ := exists_mem_utf8EncodeChar beyond
    have here : octet ∈ octets := by
      rw [← ofText_of_toText? read, ofText_eq_flatMap]
      exact List.mem_flatMap.2 ⟨c, inside, member⟩
    exact absurd (of_decide_eq_true (List.all_eq_true.1 ascii octet here)) large
  · exact decide_eq_true (Nat.not_le.1 beyond)

/-- ASCII texts have ASCII octets. -/
theorem isAscii_ofText {text : String} (ascii : ∀ c ∈ text.toList, c.toNat < 0x80) :
    (ofText text).isAscii = true := by
  rw [isAscii, List.all_eq_true, ofText_eq_flatMap]
  intro octet inside
  obtain ⟨c, member, spelled⟩ := List.mem_flatMap.1 inside
  have small := ascii c member
  have one : c.utf8Size = 1 := Char.utf8Size_eq_one_iff.2 (Nat.le_of_lt_succ small)
  rw [String.utf8EncodeChar_eq_singleton one, List.mem_singleton] at spelled
  rw [spelled, decide_eq_true_iff, UInt8.lt_iff_toNat_lt, UInt32.toNat_toUInt8]
  exact Nat.lt_of_le_of_lt (Nat.mod_le _ _) small

end X509.Octets
