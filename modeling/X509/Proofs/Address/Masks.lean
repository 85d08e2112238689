/-
**Masks of ones before zeros.**

A mask has as many ones at its start as it has in all exactly when all of them come first: what is
left after the leading ones then has none. So comparing the two counts finds the masks of networks,
and the count is the number of ones that such a mask was made with.

* `Network.countOnes_of_leading`, `Network.getLsbD_of_leadingOnes` — the two counts by the bits.
* `Network.leadingOnes_maskOf`, `Network.countOnes_maskOf` — the counts of a mask of ones before
  zeros.
* `Network.eq_maskOf_of_leadingOnes_eq` — no other mask has equal counts.
* `Network.ofMask?_eq_some_iff` — the network for a mask.
* `Network.exists_ofMask?_iff` — which masks have one.
-/

import X509.Proofs.Address.Ranges

namespace X509.Network

variable {width ones : Nat} {bits mask address : BitVec width} {network : Network width}

/-! ### All ones -/

theorem cpopNatRec_eq_countP (bits : BitVec width) (count : Nat) :
    bits.cpopNatRec count 0 = (List.range count).countP bits.getLsbD := by
  induction count with
  | zero => rfl
  | succ count ih =>
    rw [BitVec.cpopNatRec_succ, BitVec.cpopNatRec_add, ih, List.range_succ, List.countP_append,
      List.countP_singleton]
    cases bits.getLsbD count <;> simp

/-- Where the bits begin with ones, the others are below them. -/
theorem countOnes_of_leading (bound : ones ≤ width)
    (leading : ∀ place < width, width - ones ≤ place → bits.getLsbD place = true) :
    countOnes bits = (List.range (width - ones)).countP bits.getLsbD + ones := by
  have split : List.range width =
      List.range (width - ones) ++ (List.range ones).map (width - ones + ·) := by
    rw [← List.range_add, Nat.sub_add_cancel bound]
  have high : ∀ place ∈ (List.range ones).map (width - ones + ·), bits.getLsbD place = true := by
    intro place member
    obtain ⟨offset, below, rfl⟩ := List.mem_map.1 member
    have inside := List.mem_range.1 below
    exact leading _ (by omega) (by omega)
  rw [countOnes, BitVec.toNat_cpop, cpopNatRec_eq_countP, split, List.countP_append,
    List.countP_eq_length.2 high, List.length_map, List.length_range]

/-! ### Leading ones -/

theorem leadingOnes_le (bits : BitVec width) : leadingOnes bits ≤ width := by
  have le : (~~~bits).clz ≤ BitVec.ofNat width width := BitVec.clz_le
  calc leadingOnes bits ≤ (BitVec.ofNat width width).toNat := le
    _ = width % 2 ^ width := BitVec.toNat_ofNat width width
    _ ≤ width := Nat.mod_le width _

/-- The leading ones are ones. -/
theorem getLsbD_of_leadingOnes {place : Nat} (inside : place < width)
    (leading : width - leadingOnes bits ≤ place) : bits.getLsbD place = true := by
  have small : (~~~bits).toNat < 2 ^ place :=
    Nat.lt_of_lt_of_le BitVec.toNat_lt_two_pow_sub_clz (Nat.pow_le_pow_right (by decide) leading)
  have zero : (~~~bits).getLsbD place = false := by
    rw [← BitVec.testBit_toNat]
    exact Nat.testBit_lt_two_pow small
  simpa [inside] using zero

/-- The leading ones end at a zero. -/
theorem getLsbD_after_leadingOnes (room : leadingOnes bits < width) :
    bits.getLsbD (width - 1 - leadingOnes bits) = false := by
  have some : ~~~bits ≠ 0 := by
    intro none
    have whole : leadingOnes bits = width := by
      rw [leadingOnes, BitVec.clz_eq_iff_eq_zero.2 none]
      exact Nat.mod_eq_of_lt Nat.lt_two_pow_self
    omega
  have zero := BitVec.getLsbD_true_clz_of_ne_zero (Nat.zero_lt_of_lt room) some
  have inside : width - 1 - leadingOnes bits < width := by omega
  rw [← leadingOnes] at zero
  simpa [inside] using zero

/-! ### The counts of masks -/

theorem leadingOnes_maskOf (bound : ones ≤ width) : leadingOnes (maskOf width ones) = ones := by
  have most := leadingOnes_le (maskOf width ones)
  apply Nat.le_antisymm
  · rcases Nat.eq_zero_or_pos (leadingOnes (maskOf width ones)) with none | filled
    · omega
    · have inside : width - leadingOnes (maskOf width ones) < width := by omega
      have one := getLsbD_of_leadingOnes inside (Nat.le_refl _)
      rw [getLsbD_maskOf ones inside, decide_eq_true_eq] at one
      omega
  · rcases Nat.lt_or_ge (leadingOnes (maskOf width ones)) width with room | full
    · have inside : width - 1 - leadingOnes (maskOf width ones) < width := by omega
      have zero := getLsbD_after_leadingOnes room
      rw [getLsbD_maskOf ones inside, decide_eq_false_iff_not] at zero
      omega
    · omega

theorem countOnes_maskOf (bound : ones ≤ width) : countOnes (maskOf width ones) = ones := by
  have high : ∀ place < width, width - ones ≤ place →
      (maskOf width ones).getLsbD place = true := by
    intro place inside leading
    rw [getLsbD_maskOf ones inside, decide_eq_true leading]
  have low : (List.range (width - ones)).countP (maskOf width ones).getLsbD = 0 := by
    rw [List.countP_eq_zero]
    intro place member
    have below := List.mem_range.1 member
    rw [getLsbD_maskOf ones (by omega), decide_eq_true_eq]
    omega
  rw [countOnes_of_leading bound high, low, Nat.zero_add]

/-- **A mask with as many leading ones as it has ones is ones before zeros.** The leading ones are
all there are, so there is none below them. -/
theorem eq_maskOf_of_leadingOnes_eq (same : leadingOnes mask = countOnes mask) :
    mask = maskOf width (leadingOnes mask) := by
  have all := countOnes_of_leading (leadingOnes_le mask) fun _ => getLsbD_of_leadingOnes
  have low : (List.range (width - leadingOnes mask)).countP mask.getLsbD = 0 := by omega
  apply BitVec.eq_of_getLsbD_eq
  intro place inside
  rw [getLsbD_maskOf _ inside]
  by_cases leading : width - leadingOnes mask ≤ place
  · rw [getLsbD_of_leadingOnes inside leading, decide_eq_true leading]
  · have zero := List.countP_eq_zero.1 low place (List.mem_range.2 (Nat.not_le.1 leading))
    rw [Bool.eq_false_iff.2 zero, decide_eq_false leading]

/-! ### Masks bit by bit -/

/-- The ones of a mask come first. -/
theorem getMsbD_maskOf (bound : ones ≤ width) (place : Nat) :
    (maskOf width ones).getMsbD place = decide (place < ones) := by
  by_cases inside : place < width
  · have low : width - 1 - place < width := by omega
    have same : width - ones ≤ width - 1 - place ↔ place < ones := by omega
    rw [BitVec.getMsbD, getLsbD_maskOf ones low, decide_eq_true inside, Bool.true_and,
      decide_eq_decide.2 same]
  · have beyond : ¬ place < ones := by omega
    rw [BitVec.getMsbD_of_ge _ _ (Nat.not_lt.1 inside), decide_eq_false beyond]

/-- A mask that begins with so many ones, and has zeros after them. -/
def IsMask (mask : BitVec width) (ones : Nat) : Prop :=
  ones ≤ width ∧ ∀ place < width, mask.getMsbD place = decide (place < ones)

theorem isMask_iff :
    IsMask mask ones ↔ ones ≤ width ∧ mask = maskOf width ones := by
  rw [IsMask, and_congr_right_iff]
  intro bound
  constructor
  · intro places
    apply BitVec.eq_of_getMsbD_eq
    intro place inside
    rw [places place inside, getMsbD_maskOf bound]
  · rintro rfl place -
    exact getMsbD_maskOf bound place

/-! ### Networks for masks -/

theorem contiguous?_eq_some_iff {leading count : Nat} :
    contiguous? leading count = some ones ↔ leading = ones ∧ count = ones ∧ ones < 256 := by
  unfold contiguous?
  split <;> simp <;> omega

theorem ofOnes?_eq_some_iff :
    ofOnes? address ones = some network ↔ network.address = address ∧ network.ones = ones := by
  unfold ofOnes?
  split
  · rw [Option.some.injEq]
    constructor
    · rintro rfl
      exact ⟨rfl, rfl⟩
    · rintro ⟨rfl, rfl⟩
      rfl
  · next beyond =>
    constructor
    · intro found
      cases found
    · rintro ⟨-, rfl⟩
      exact absurd network.ones_le beyond

/-- **The network found for a mask has that mask, and the address unchanged.** -/
theorem ofMask?_eq_some_iff :
    ofMask? address mask = some network ↔
      network.address = address ∧ network.mask = mask ∧ network.ones < 256 := by
  simp only [ofMask?, Option.bind_eq_some_iff, contiguous?_eq_some_iff, ofOnes?_eq_some_iff]
  constructor
  · rintro ⟨_, ⟨leading, count, small⟩, rfl, rfl⟩
    have whole := eq_maskOf_of_leadingOnes_eq (leading.trans count.symm)
    rw [leading] at whole
    exact ⟨rfl, whole.symm, small⟩
  · rintro ⟨rfl, rfl, small⟩
    exact ⟨network.ones, ⟨leadingOnes_maskOf network.ones_le, countOnes_maskOf network.ones_le,
      small⟩, rfl, rfl⟩

theorem mask_of_ofMask? (found : ofMask? address mask = some network) :
    network.address = address ∧ network.mask = mask := by
  obtain ⟨same, whole, -⟩ := ofMask?_eq_some_iff.1 found
  exact ⟨same, whole⟩

/-- **There is a network for a mask of ones before zeros, and for no other,** if an octet holds the
number of bits. -/
theorem exists_ofMask?_iff (narrow : width < 256) :
    (∃ network, ofMask? address mask = some network) ↔ ∃ ones, IsMask mask ones := by
  constructor
  · rintro ⟨network, found⟩
    obtain ⟨-, rfl, -⟩ := ofMask?_eq_some_iff.1 found
    exact ⟨network.ones, isMask_iff.2 ⟨network.ones_le, rfl⟩⟩
  · rintro ⟨ones, shape⟩
    obtain ⟨bound, rfl⟩ := isMask_iff.1 shape
    refine ⟨⟨address, ones, bound⟩, ofMask?_eq_some_iff.2 ⟨rfl, rfl, ?_⟩⟩
    exact Nat.lt_of_le_of_lt bound narrow

end X509.Network
