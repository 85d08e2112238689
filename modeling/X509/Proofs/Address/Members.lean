/-
**Networks as sets of addresses.**

The members of a network are the addresses that begin with its bits, as many of them as its mask has
ones. That is what masking an address tells; and since clearing host bits keeps the order of
addresses, it is also what the first and the last member tell. So the tests on the ends of networks
are tests on sets, and two networks with a common member are nested: the one with the shorter mask
holds all members of the other.

* `Network.mem_members_iff`, `Network.contains_iff_mem` — members by their mask and by their order.
* `Network.containsNetwork_iff_subset`, `Network.nested_or_disjoint` — two networks.
* `IpNetwork.truncate_eq_iff_members_eq`, `IpNetwork.nested_or_disjoint` — both versions.
-/

import Mathlib
import X509.Proofs.Address.Masks

namespace X509

/-! ### Masked addresses -/

namespace Network

variable {width : Nat}

section Masks

variable {ones : Nat} {bits bits' : BitVec width}

/-- **Masked addresses are equal when the addresses begin with the same bits.** -/
theorem and_maskOf_eq_iff (bound : ones ≤ width) :
    bits &&& maskOf width ones = bits' &&& maskOf width ones ↔
      ∀ place < ones, bits.getMsbD place = bits'.getMsbD place := by
  constructor
  · intro same place before
    have bit := congrArg (BitVec.getMsbD · place) same
    simpa [BitVec.getMsbD_and, getMsbD_maskOf bound, before] using bit
  · intro same
    apply BitVec.eq_of_getMsbD_eq
    intro place _
    rw [BitVec.getMsbD_and, BitVec.getMsbD_and, getMsbD_maskOf bound]
    by_cases before : place < ones
    · rw [same place before]
    · simp [before]

/-- Clearing host bits rounds a number down. -/
theorem toNat_and_maskOf (bits : BitVec width) (ones : Nat) :
    (bits &&& maskOf width ones).toNat =
      bits.toNat / 2 ^ (width - ones) * 2 ^ (width - ones) := by
  have fits := Nat.lt_of_le_of_lt (Nat.div_mul_le_self bits.toNat (2 ^ (width - ones))) bits.isLt
  rw [maskOf, ← BitVec.shiftLeft_ushiftRight, BitVec.toNat_shiftLeft, BitVec.toNat_ushiftRight,
    Nat.shiftLeft_eq, Nat.shiftRight_eq_div_pow, Nat.mod_eq_of_lt fits]

/-- **Clearing host bits keeps the order of addresses.** -/
theorem and_maskOf_le_and_maskOf (ones : Nat) (le : bits ≤ bits') :
    bits &&& maskOf width ones ≤ bits' &&& maskOf width ones := by
  rw [BitVec.le_def] at le ⊢
  rw [toNat_and_maskOf, toNat_and_maskOf]
  exact Nat.mul_le_mul_right _ (Nat.div_le_div_right le)

end Masks

/-! ### Members -/

variable {one two network : Network width} {address : BitVec width}

/-- The addresses that begin with the same bits as the address of a network, as many as its mask
tells. -/
def members (network : Network width) : Set (BitVec width) :=
  {address | ∀ place < network.ones, address.getMsbD place = network.address.getMsbD place}

/-- **The members are the addresses that the mask makes equal to that of the network.** -/
theorem mem_members_iff :
    address ∈ network.members ↔ address &&& network.mask = network.address &&& network.mask :=
  (and_maskOf_eq_iff network.ones_le).symm

theorem first_and_mask (network : Network width) :
    network.first &&& network.mask = network.first :=
  first_truncate network

theorem last_eq (network : Network width) : network.last = network.first ||| ~~~network.mask :=
  (last_truncate network).symm

theorem last_and_mask (network : Network width) :
    network.last &&& network.mask = network.first := by
  show (network.address ||| ~~~network.mask) &&& network.mask = network.address &&& network.mask
  ext index inside
  simp only [BitVec.getElem_and, BitVec.getElem_or, BitVec.getElem_not]
  cases network.mask[index] <;> simp

/-- **The members reach from the first to the last.** Masking keeps the order, so what lies between
the two is masked to what both are masked to; and an address lies between itself without and with
all host bits. -/
theorem contains_iff_mem : network.contains address = true ↔ address ∈ network.members := by
  rw [contains_iff, mem_members_iff]
  constructor
  · rintro ⟨above, below⟩
    have least := and_maskOf_le_and_maskOf network.ones above
    have most := and_maskOf_le_and_maskOf network.ones below
    rw [← mask, first_and_mask] at least
    rw [← mask, last_and_mask] at most
    exact BitVec.le_antisymm most least
  · intro same
    have first : network.first = address &&& network.mask := same.symm
    have last : network.last = address ||| ~~~network.mask := by
      rw [last_eq, first, and_or_not_self]
    rw [first, last, BitVec.le_def, BitVec.le_def, BitVec.toNat_and, BitVec.toNat_or]
    exact ⟨Nat.and_le_left, Nat.left_le_or⟩

theorem first_mem (network : Network width) : network.first ∈ network.members :=
  mem_members_iff.2 (first_and_mask network)

theorem last_mem (network : Network width) : network.last ∈ network.members :=
  mem_members_iff.2 (last_and_mask network)

/-! ### Two networks -/

/-- **A network contains another when it has all its members.** -/
theorem containsNetwork_iff_subset :
    one.containsNetwork two = true ↔ two.members ⊆ one.members := by
  constructor
  · intro outer address inner
    rw [← contains_iff_mem] at inner ⊢
    exact contains_of_containsNetwork outer inner
  · intro inner
    have first := contains_iff.1 (contains_iff_mem.2 (inner two.first_mem))
    have last := contains_iff.1 (contains_iff_mem.2 (inner two.last_mem))
    exact containsNetwork_iff.2 ⟨first.1, last.2⟩

/-- Of two networks with a common member, the one that says less of its members has the others. -/
theorem members_subset_of_mem (shorter : one.ones ≤ two.ones) (here : address ∈ one.members)
    (there : address ∈ two.members) : two.members ⊆ one.members := by
  intro other inside place before
  have within : place < two.ones := Nat.lt_of_lt_of_le before shorter
  rw [inside place within, ← there place within, here place before]

/-- **Two networks are nested or have no common member.** -/
theorem nested_or_disjoint (one two : Network width) :
    one.members ⊆ two.members ∨ two.members ⊆ one.members ∨ Disjoint one.members two.members := by
  by_cases common : ∃ address, address ∈ one.members ∧ address ∈ two.members
  · obtain ⟨address, here, there⟩ := common
    rcases Nat.le_total one.ones two.ones with shorter | shorter
    · exact .inr (.inl (members_subset_of_mem shorter here there))
    · exact .inl (members_subset_of_mem shorter there here)
  · refine .inr (.inr (Set.disjoint_left.2 fun address here there => ?_))
    exact common ⟨address, here, there⟩

end Network

/-! ### Networks of both versions -/

namespace IpNetwork

variable {one two network : IpNetwork} {address : IpAddress}

/-- The addresses of a network, which are of its version. -/
def members : IpNetwork → Set IpAddress
  | .v4 network => IpAddress.v4 '' network.members
  | .v6 network => IpAddress.v6 '' network.members

theorem v4_injective : Function.Injective IpAddress.v4 :=
  fun _ _ => IpAddress.v4.inj

theorem v6_injective : Function.Injective IpAddress.v6 :=
  fun _ _ => IpAddress.v6.inj

theorem members_nonempty (network : IpNetwork) : network.members.Nonempty :=
  match network with
  | .v4 network => ⟨_, _, network.first_mem, rfl⟩
  | .v6 network => ⟨_, _, network.first_mem, rfl⟩

/-- **An address that a network contains is one of its members.** -/
theorem contains_iff_mem : network.contains address = true ↔ address ∈ network.members :=
  match network, address with
  | .v4 _, .v4 _ => Network.contains_iff_mem.trans v4_injective.mem_set_image.symm
  | .v6 _, .v6 _ => Network.contains_iff_mem.trans v6_injective.mem_set_image.symm
  | .v4 _, .v6 _ => ⟨nofun, nofun⟩
  | .v6 _, .v4 _ => ⟨nofun, nofun⟩

/-- Networks of different versions have no common member. -/
theorem disjoint_versions (one : Network 32) (two : Network 128) :
    Disjoint (v4 one).members (v6 two).members := by
  rw [Set.disjoint_left]
  rintro _ ⟨_, -, rfl⟩ ⟨_, -, same⟩
  cases same

/-- **A network contains another when it has all its members.** -/
theorem containsNetwork_iff_subset :
    one.containsNetwork two = true ↔ two.members ⊆ one.members :=
  match one, two with
  | .v4 _, .v4 _ =>
    Network.containsNetwork_iff_subset.trans (Set.image_subset_image_iff v4_injective).symm
  | .v6 _, .v6 _ =>
    Network.containsNetwork_iff_subset.trans (Set.image_subset_image_iff v6_injective).symm
  | .v4 one, .v6 two => by
    refine ⟨nofun, fun inner => ?_⟩
    have none := (disjoint_versions one two).symm.eq_bot_of_le inner
    exact absurd none (v6 two).members_nonempty.ne_empty
  | .v6 one, .v4 two => by
    refine ⟨nofun, fun inner => ?_⟩
    have none := (disjoint_versions two one).eq_bot_of_le inner
    exact absurd none (v4 two).members_nonempty.ne_empty

/-- **Networks agree without their host bits when they have the same members.** -/
theorem truncate_eq_iff_members_eq : one.truncate = two.truncate ↔ one.members = two.members := by
  constructor
  · intro same
    ext address
    rw [← contains_iff_mem, ← contains_iff_mem, contains_congr same]
  · intro same
    apply containsNetwork_antisymm
    · exact containsNetwork_iff_subset.2 same.ge
    · exact containsNetwork_iff_subset.2 same.le

/-- **Two networks are nested or have no common member.** -/
theorem nested_or_disjoint (one two : IpNetwork) :
    one.members ⊆ two.members ∨ two.members ⊆ one.members ∨ Disjoint one.members two.members := by
  cases one with
  | v4 one =>
    cases two with
    | v4 two =>
      simp only [members, Set.image_subset_image_iff v4_injective,
        Set.disjoint_image_iff v4_injective]
      exact Network.nested_or_disjoint one two
    | v6 two => exact .inr (.inr (disjoint_versions one two))
  | v6 one =>
    cases two with
    | v4 two => exact .inr (.inr (disjoint_versions two one).symm)
    | v6 two =>
      simp only [members, Set.image_subset_image_iff v6_injective,
        Set.disjoint_image_iff v6_injective]
      exact Network.nested_or_disjoint one two

end IpNetwork

end X509
