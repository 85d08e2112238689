/-
**Networks as ranges of addresses.**

A network reaches from its first member to its last. With its host bits cleared it is determined by
these two, since they differ in exactly the bits that the mask leaves open and a mask determines how
many ones it has. So containment of networks is an order on networks without host bits, and whatever
looks at members only cannot tell two networks apart that agree without their host bits.

* `Network.truncate_eq_iff` — a network without host bits is its first and its last member.
* `Network.containsNetwork_trans`, `Network.containsNetwork_antisymm` — containment is an order.
* `IpNetwork.contains_congr`, `IpNetwork.containsNetwork_congr` — host bits do not matter.
-/

import X509.Address.Basic

namespace X509

/-! ### Networks of one width -/

namespace Network

variable {width : Nat}

/-- The ones of a mask are its highest bits. -/
theorem getLsbD_maskOf {index : Nat} (ones : Nat) (inside : index < width) :
    (maskOf width ones).getLsbD index = decide (width - ones ≤ index) := by
  rw [maskOf, BitVec.getLsbD_shiftLeft, BitVec.getLsbD_allOnes]
  rcases Nat.lt_or_ge index (width - ones) with below | above
  · simp [below, inside, Nat.not_le.2 below]
  · have room : index - (width - ones) < width := by omega
    simp [inside, room, above, Nat.not_lt.2 above]

theorem le_of_maskOf_eq {ones ones' : Nat} (bound : ones ≤ width)
    (same : maskOf width ones = maskOf width ones') : ones ≤ ones' := by
  rcases Nat.eq_zero_or_pos ones with rfl | filled
  · exact Nat.zero_le ones'
  · -- otherwise the lowest one of the longer mask is a zero of the shorter one
    have inside : width - ones < width := by omega
    have lowest := getLsbD_maskOf ones inside
    rw [same, getLsbD_maskOf ones' inside, decide_eq_decide] at lowest
    omega

theorem maskOf_injective {ones ones' : Nat} (bound : ones ≤ width) (bound' : ones' ≤ width)
    (same : maskOf width ones = maskOf width ones') : ones = ones' :=
  Nat.le_antisymm (le_of_maskOf_eq bound same) (le_of_maskOf_eq bound' same.symm)

theorem first_truncate (network : Network width) : network.truncate.first = network.first := by
  show network.address &&& network.mask &&& network.mask = network.address &&& network.mask
  rw [BitVec.and_assoc, BitVec.and_self]

/-- Bits that are set need not be cleared before. -/
theorem and_or_not_self (bits mask : BitVec width) :
    bits &&& mask ||| ~~~mask = bits ||| ~~~mask := by
  ext index inside
  simp only [BitVec.getElem_or, BitVec.getElem_and, BitVec.getElem_not]
  cases mask[index] <;> simp

theorem last_truncate (network : Network width) : network.truncate.last = network.last :=
  and_or_not_self network.address network.mask

/-- The first and the last member differ in the bits that the mask leaves open. -/
theorem mask_eq (network : Network width) : network.mask = ~~~(network.first ^^^ network.last) := by
  show network.mask =
    ~~~((network.address &&& network.mask) ^^^ (network.address ||| ~~~network.mask))
  ext index inside
  simp only [BitVec.getElem_not, BitVec.getElem_xor, BitVec.getElem_or, BitVec.getElem_and]
  cases network.mask[index] <;> cases network.address[index] <;> rfl

/-- **A network without host bits is its first and its last member.** -/
theorem truncate_eq_iff {one two : Network width} :
    one.truncate = two.truncate ↔ one.first = two.first ∧ one.last = two.last := by
  constructor
  · intro same
    rw [← first_truncate one, ← last_truncate one, same, first_truncate, last_truncate]
    exact ⟨rfl, rfl⟩
  · rintro ⟨first, last⟩
    have masks : one.mask = two.mask := by rw [mask_eq one, mask_eq two, first, last]
    have ones := maskOf_injective one.ones_le two.ones_le masks
    simp only [truncate, Network.mk.injEq]
    exact ⟨first, ones⟩

theorem contains_iff {network : Network width} {address : BitVec width} :
    network.contains address = true ↔ network.first ≤ address ∧ address ≤ network.last := by
  simp only [contains, Bool.and_eq_true, decide_eq_true_eq]

theorem containsNetwork_iff {one two : Network width} :
    one.containsNetwork two = true ↔ one.first ≤ two.first ∧ two.last ≤ one.last := by
  simp only [containsNetwork, Bool.and_eq_true, decide_eq_true_eq]

theorem containsNetwork_trans {one two three : Network width}
    (outer : one.containsNetwork two = true) (inner : two.containsNetwork three = true) :
    one.containsNetwork three = true := by
  rw [containsNetwork_iff] at outer inner ⊢
  exact ⟨BitVec.le_trans outer.1 inner.1, BitVec.le_trans inner.2 outer.2⟩

theorem contains_of_containsNetwork {one two : Network width} {address : BitVec width}
    (outer : one.containsNetwork two = true) (inner : two.contains address = true) :
    one.contains address = true := by
  rw [containsNetwork_iff] at outer
  rw [contains_iff] at inner ⊢
  exact ⟨BitVec.le_trans outer.1 inner.1, BitVec.le_trans inner.2 outer.2⟩

/-- **Networks that contain each other agree without their host bits.** -/
theorem containsNetwork_antisymm {one two : Network width}
    (outer : one.containsNetwork two = true) (inner : two.containsNetwork one = true) :
    one.truncate = two.truncate := by
  rw [containsNetwork_iff] at outer inner
  exact truncate_eq_iff.2
    ⟨BitVec.le_antisymm outer.1 inner.1, BitVec.le_antisymm inner.2 outer.2⟩

theorem contains_congr {one two : Network width} (same : one.truncate = two.truncate)
    (address : BitVec width) : one.contains address = two.contains address := by
  obtain ⟨first, last⟩ := truncate_eq_iff.1 same
  rw [contains, contains, first, last]

theorem containsNetwork_congr {one two one' two' : Network width}
    (outer : one.truncate = one'.truncate) (inner : two.truncate = two'.truncate) :
    one.containsNetwork two = one'.containsNetwork two' := by
  obtain ⟨first, last⟩ := truncate_eq_iff.1 outer
  obtain ⟨first', last'⟩ := truncate_eq_iff.1 inner
  rw [containsNetwork, containsNetwork, first, last, first', last']

end Network

/-! ### Networks of both versions -/

namespace IpNetwork

theorem containsNetwork_trans {one two three : IpNetwork}
    (outer : one.containsNetwork two = true) (inner : two.containsNetwork three = true) :
    one.containsNetwork three = true :=
  match one, two, three, outer, inner with
  | .v4 _, .v4 _, .v4 _, outer, inner => Network.containsNetwork_trans outer inner
  | .v6 _, .v6 _, .v6 _, outer, inner => Network.containsNetwork_trans outer inner

theorem contains_of_containsNetwork {one two : IpNetwork} {address : IpAddress}
    (outer : one.containsNetwork two = true) (inner : two.contains address = true) :
    one.contains address = true :=
  match one, two, address, outer, inner with
  | .v4 _, .v4 _, .v4 _, outer, inner => Network.contains_of_containsNetwork outer inner
  | .v6 _, .v6 _, .v6 _, outer, inner => Network.contains_of_containsNetwork outer inner

theorem containsNetwork_antisymm {one two : IpNetwork}
    (outer : one.containsNetwork two = true) (inner : two.containsNetwork one = true) :
    one.truncate = two.truncate :=
  match one, two, outer, inner with
  | .v4 _, .v4 _, outer, inner => congrArg v4 (Network.containsNetwork_antisymm outer inner)
  | .v6 _, .v6 _, outer, inner => congrArg v6 (Network.containsNetwork_antisymm outer inner)

/-- Host bits decide over no member. -/
theorem contains_congr {one two : IpNetwork} (same : one.truncate = two.truncate)
    (address : IpAddress) : one.contains address = two.contains address :=
  match one, two, address, same with
  | .v4 _, .v4 _, .v4 _, same => Network.contains_congr (v4.inj same) _
  | .v6 _, .v6 _, .v6 _, same => Network.contains_congr (v6.inj same) _
  | .v4 _, .v4 _, .v6 _, _ => rfl
  | .v6 _, .v6 _, .v4 _, _ => rfl

/-- Host bits decide over no containment. -/
theorem containsNetwork_congr {one two one' two' : IpNetwork}
    (outer : one.truncate = one'.truncate) (inner : two.truncate = two'.truncate) :
    one.containsNetwork two = one'.containsNetwork two' :=
  match one, one', two, two', outer, inner with
  | .v4 _, .v4 _, .v4 _, .v4 _, outer, inner =>
    Network.containsNetwork_congr (v4.inj outer) (v4.inj inner)
  | .v6 _, .v6 _, .v6 _, .v6 _, outer, inner =>
    Network.containsNetwork_congr (v6.inj outer) (v6.inj inner)
  | .v4 _, .v4 _, .v6 _, .v6 _, _, _ => rfl
  | .v6 _, .v6 _, .v4 _, .v4 _, _, _ => rfl

end IpNetwork

end X509
