/-
**Ranges of addresses under name constraints.**

A range is a set of addresses of one version: a single address, or the members of a network. The
relation of two ranges is that of their sets. Two sets are disjoint or one holds the other, and when
they are equal only their spelling tells the ranges apart: a network is never the same as an
address, even if that is its only member. In octets a network is an address and a mask of ones
before zeros, and it reaches the addresses that the mask makes equal to its own.

* `AddressRange.contains_iff`, `AddressRange.truncate_eq_iff` — containment and sameness by sets.
* `GeneralName.constrains_ipAddress_means` — the relation of two ranges by their sets.
* `AddressRange.ofOctets_subtree_maskedOctets`, `AddressRange.relation_ofVersion` — the network that
  an address and a mask are read as, and what it reaches.
* `GeneralName.constrains_of_masked` — what the octets of an address and a mask mean.
-/

import X509.Proofs.Address.Members
import X509.Proofs.Constraint.Algebra
import X509.Proofs.GeneralName.Codec

namespace X509

open NameRelation (means_between)
open Network (IsMask)

/-! ### Ranges as sets -/

namespace AddressRange

variable {one two range : AddressRange}

/-- The addresses of a range. -/
def members : AddressRange → Set IpAddress
  | .address single => {single}
  | .network range => range.members

theorem members_nonempty (range : AddressRange) : range.members.Nonempty :=
  match range with
  | .address single => Set.singleton_nonempty single
  | .network range => range.members_nonempty

/-- **A range contains another when it is a network and has all its addresses.** -/
theorem contains_iff :
    one.contains two = true ↔ one.isNetwork = true ∧ two.members ⊆ one.members := by
  cases one with
  | address one => exact ⟨nofun, nofun⟩
  | network one =>
    rw [and_iff_right (show isNetwork (.network one) = true from rfl)]
    cases two with
    | address two => exact IpNetwork.contains_iff_mem.trans Set.singleton_subset_iff.symm
    | network two => exact IpNetwork.containsNetwork_iff_subset

/-- **Ranges agree without their host bits when they are written alike and have the same
addresses.** -/
theorem truncate_eq_iff :
    one.truncate = two.truncate ↔ one.members = two.members ∧ one.isNetwork = two.isNetwork := by
  cases one with
  | address one =>
    cases two with
    | address two => simp [truncate, members, isNetwork]
    | network two => simp [truncate, isNetwork]
  | network one =>
    cases two with
    | address two => simp [truncate, isNetwork]
    | network two => simp [truncate, members, isNetwork, IpNetwork.truncate_eq_iff_members_eq]

/-- Whether a second range lies inside a first: the first is a network and has all its addresses,
and the second is an address or has fewer. -/
def Encloses (outer inner : AddressRange) : Prop :=
  inner.members ⊆ outer.members ∧ outer.isNetwork = true ∧
    (inner.isNetwork = false ∨ inner.members ≠ outer.members)

theorem encloses_iff :
    one.truncate ≠ two.truncate ∧ one.contains two = true ↔ one.Encloses two := by
  rw [Encloses, contains_iff, ne_eq, truncate_eq_iff]
  cases one.isNetwork <;> cases two.isNetwork <;> simp [and_comm, eq_comm]

/-- **Two ranges are nested or have no address in common.** -/
theorem nested_or_disjoint (one two : AddressRange) :
    one.members ⊆ two.members ∨ two.members ⊆ one.members ∨ Disjoint one.members two.members := by
  cases one with
  | address one =>
    by_cases inside : one ∈ two.members
    · exact .inl (Set.singleton_subset_iff.2 inside)
    · exact .inr (.inr (Set.disjoint_singleton_left.2 inside))
  | network one =>
    cases two with
    | address two =>
      by_cases inside : two ∈ one.members
      · exact .inr (.inl (Set.singleton_subset_iff.2 inside))
      · exact .inr (.inr (Set.disjoint_singleton_right.2 inside))
    | network two => exact IpNetwork.nested_or_disjoint one two

/-- A range that has all addresses of another is the same or encloses it, but for an address that is
the only member of a network: then the network encloses the address. -/
theorem related_of_subset (inner : two.members ⊆ one.members) :
    one.members = two.members ∧ one.isNetwork = two.isNetwork ∨ one.Encloses two ∨
      two.Encloses one := by
  cases one with
  | network one =>
    by_cases same : (network one).members = two.members ∧ (network one).isNetwork = two.isNetwork
    · exact .inl same
    · refine .inr (.inl (encloses_iff.1 ⟨mt truncate_eq_iff.1 same, ?_⟩))
      exact contains_iff.2 ⟨rfl, inner⟩
  | address one =>
    have whole : two.members = {one} :=
      (Set.subset_singleton_iff_eq.1 inner).resolve_left two.members_nonempty.ne_empty
    cases two with
    | address two => exact .inl ⟨whole.symm, rfl⟩
    | network two => exact .inr (.inr ⟨whole.ge, rfl, .inl rfl⟩)

/-- **Ranges that are neither the same nor enclose one another have no address in common.** -/
theorem unrelated_iff_disjoint :
    ¬(one.members = two.members ∧ one.isNetwork = two.isNetwork) ∧ ¬one.Encloses two ∧
        ¬two.Encloses one ↔
      Disjoint one.members two.members := by
  constructor
  · rintro ⟨differ, outside, outside'⟩
    rcases nested_or_disjoint one two with inner | inner | apart
    · rcases related_of_subset inner with ⟨same, spelling⟩ | encloses | encloses
      · exact absurd ⟨same.symm, spelling.symm⟩ differ
      · exact absurd encloses outside'
      · exact absurd encloses outside
    · rcases related_of_subset inner with same | encloses | encloses
      · exact absurd same differ
      · exact absurd encloses outside
      · exact absurd encloses outside'
    · exact apart
  · intro apart
    refine ⟨fun ⟨same, _⟩ => ?_, fun ⟨inner, _⟩ => ?_, fun ⟨inner, _⟩ => ?_⟩
    · exact one.members_nonempty.ne_empty (apart.eq_bot_of_le same.le)
    · exact two.members_nonempty.ne_empty (apart.symm.eq_bot_of_le inner)
    · exact one.members_nonempty.ne_empty (apart.eq_bot_of_le inner)

end AddressRange

namespace GeneralName

/-- **The relation of two ranges is that of their sets of addresses,** whatever their host bits: the
same set written alike, a set inside that of a network, or sets with nothing in common. -/
theorem constrains_ipAddress_means (one two : AddressRange) :
    ∃ relation, (GeneralName.ipAddress one).constrains (some (.ipAddress two)) = .ok relation ∧
      (relation = .sameType ↔ Disjoint one.members two.members) ∧
      (relation = .same ↔ one.members = two.members ∧ one.isNetwork = two.isNetwork) ∧
      (relation = .narrows ↔ one.Encloses two) ∧ (relation = .widens ↔ two.Encloses one) ∧
      (one.members ⊆ two.members ∨ two.members ⊆ one.members ∨
        Disjoint one.members two.members) := by
  have means := means_between range_isContainment (@AddressRange.truncate_eq_iff one two)
    (@AddressRange.encloses_iff one two) (@AddressRange.encloses_iff two one)
  rw [← rangeRelation_eq_between] at means
  refine ⟨one.relation two, rfl, ?_, means.same_iff, means.narrows_iff, means.widens_iff,
    AddressRange.nested_or_disjoint one two⟩
  rw [means.sameType_iff]
  exact AddressRange.unrelated_iff_disjoint

/-- A network of which an address is the only member encloses that address. -/
example :
    AddressRange.relation (.network (.v4 ⟨0x0a000001, 32, by decide⟩)) (.address (.v4 0x0a000001)) =
      .narrows := by
  decide

end GeneralName

/-! ### Masks in octets -/

/-- The versions of addresses. -/
inductive IpVersion where
  | v4
  | v6
deriving DecidableEq

/-- The number of bits of an address, reducible so that the two versions share their lemmas. -/
abbrev IpVersion.width : IpVersion → Nat
  | .v4 => 32
  | .v6 => 128

/-- An octet holds the number of bits of an address. -/
theorem IpVersion.width_lt (version : IpVersion) : version.width < 256 := by
  cases version <;> decide

/-- The address of a version with these bits. -/
def IpAddress.ofBits : (version : IpVersion) → BitVec version.width → IpAddress
  | .v4, bits => .v4 bits
  | .v6, bits => .v6 bits

/-- A network of a version. -/
def IpNetwork.ofVersion : (version : IpVersion) → Network version.width → IpNetwork
  | .v4, range => .v4 range
  | .v6, range => .v6 range

/-- The octets of an address, followed by those of a mask. -/
def maskedOctets (version : IpVersion) (address mask : BitVec version.width) : Octets :=
  (IpAddress.ofBits version address).toOctets ++ (IpAddress.ofBits version mask).toOctets

/-- The octets of an address and a mask under the tag of an address. -/
def maskedElement (version : IpVersion) (address mask : BitVec version.width) : Element :=
  .contextSpecific 7 false (.octetString (maskedOctets version address mask))

/-- Two numbers of one width are found again in the octets of both. -/
theorem Octets.of_two_fixed {count width : Nat} (bits : 256 ^ count = 2 ^ width)
    (first second : BitVec width) :
    let octets := ofNatFixed count first.toNat ++ ofNatFixed count second.toNat
    octets.length = count + count ∧
      BitVec.ofNat width (Octets.toNat (octets.take count)) = first ∧
      BitVec.ofNat width (Octets.toNat (octets.drop count)) = second := by
  have back (number : BitVec width) :
      BitVec.ofNat width (Octets.toNat (ofNatFixed count number.toNat)) = number := by
    rw [toNat_ofNatFixed (bits ▸ number.isLt), BitVec.ofNat_toNat, BitVec.setWidth_eq]
  have size (number : BitVec width) : (ofNatFixed count number.toNat).length = count :=
    length_ofNatFixed count number.toNat
  intro octets
  refine ⟨?_, ?_, ?_⟩
  · rw [List.length_append, size, size]
  · rw [List.take_left' (size first), back]
  · rw [List.drop_left' (size first), back]

namespace AddressRange

/-- **In the base of a subtree the octets of an address and a mask are read as the network for the
mask,** if there is one. -/
theorem ofOctets_subtree_maskedOctets (version : IpVersion) (address mask : BitVec version.width) :
    ofOctets .subtree (maskedOctets version address mask) =
      match Network.ofMask? address mask with
      | some range => .ok (.network (.ofVersion version range))
      | none => .error (.invalidMask (IpAddress.ofBits version mask).toText) := by
  cases version with
  | v4 =>
    obtain ⟨size, front, back⟩ :=
      Octets.of_two_fixed (show 256 ^ 4 = 2 ^ 32 by decide) address mask
    simp only [ofOctets, maskedOctets, IpAddress.ofBits, IpAddress.toOctets, size, front, back]
    cases Network.ofMask? address mask <;> rfl
  | v6 =>
    obtain ⟨size, front, back⟩ :=
      Octets.of_two_fixed (show 256 ^ 16 = 2 ^ 128 by decide) address mask
    simp only [ofOctets, maskedOctets, IpAddress.ofBits, IpAddress.toOctets, size, front, back]
    cases Network.ofMask? address mask <;> rfl

/-- Anywhere else they are too many. -/
theorem ofOctets_plain_maskedOctets (version : IpVersion) (address mask : BitVec version.width) :
    ofOctets .plain (maskedOctets version address mask) =
      .error (.ipAddressLength false (maskedOctets version address mask).length) := by
  have size : (maskedOctets version address mask).length = version.width / 4 := by
    cases version <;>
      simp [maskedOctets, IpAddress.ofBits, IpAddress.toOctets, Octets.length_ofNatFixed,
        IpVersion.width]
  unfold ofOctets
  rw [size]
  cases version <;> rfl

/-- **A network and an address of its version are related by the mask.** -/
theorem relation_ofVersion (version : IpVersion) (range : Network version.width)
    (bits : BitVec version.width) :
    (network (.ofVersion version range)).relation (.address (.ofBits version bits)) =
      if bits &&& range.mask = range.address &&& range.mask then .narrows else .sameType := by
  have same : (IpNetwork.ofVersion version range).contains (.ofBits version bits) =
      range.contains bits := by
    cases version <;> rfl
  rw [relation, same]
  by_cases inside : bits ∈ range.members
  · rw [if_pos (Network.mem_members_iff.1 inside), Network.contains_iff_mem.2 inside]
    rfl
  · rw [if_neg (mt Network.mem_members_iff.2 inside),
      Bool.eq_false_iff.2 (mt Network.contains_iff_mem.1 inside)]
    rfl

/-- A network and an address of the other version have nothing in common. -/
theorem relation_of_version_ne {version other : IpVersion} (differs : other ≠ version)
    (range : Network version.width) (bits : BitVec other.width) :
    (network (.ofVersion version range)).relation (.address (.ofBits other bits)) = .sameType := by
  cases version <;> cases other <;> first | exact absurd rfl differs | rfl

end AddressRange

namespace GeneralName

/-- The name of a range is read from the octets of the range. -/
theorem ofElement_address (context : NameContext) (octets : Octets) :
    ofElement context (.contextSpecific 7 false (.octetString octets)) =
      (AddressRange.ofOctets context octets).map .ipAddress :=
  rfl

/-- The name of a range is written as the octets of the range. -/
theorem toElement_address (range : AddressRange) :
    (GeneralName.ipAddress range).toElement =
      .ok (.contextSpecific 7 false (.octetString range.toOctets)) :=
  rfl

/-- **An address and a mask are read as the network for the mask,** and as nothing else. -/
theorem ofElement_maskedElement_eq_ok_iff {version : IpVersion}
    {address mask : BitVec version.width} {name : GeneralName} :
    ofElement .subtree (maskedElement version address mask) = .ok name ↔
      ∃ range, Network.ofMask? address mask = some range ∧
        .ipAddress (.network (.ofVersion version range)) = name := by
  rw [maskedElement, ofElement_address, AddressRange.ofOctets_subtree_maskedOctets]
  cases Network.ofMask? address mask with
  | none => simp [Except.map]
  | some range => simp [Except.map]

/-- **A mask in octets means bitwise masking.** An address and a mask are a name in the base of a
subtree only, and there exactly when the mask is ones before zeros. The name is written as the same
octets, host bits included, and its subtree holds the addresses of its version that the mask makes
equal to its own. -/
theorem constrains_of_masked (version : IpVersion) (address mask : BitVec version.width) :
    ((∃ name, ofElement .subtree (maskedElement version address mask) = .ok name) ↔
        ∃ ones, IsMask mask ones) ∧
      (∃ fault, ofElement .plain (maskedElement version address mask) = .error fault) ∧
      ∀ name, ofElement .subtree (maskedElement version address mask) = .ok name →
        name.toElement = .ok (maskedElement version address mask) ∧
          (∀ bits, name.constrains (some (.ipAddress (.address (.ofBits version bits)))) =
            .ok (if bits &&& mask = address &&& mask then .narrows else .sameType)) ∧
          ∀ other ≠ version, ∀ bits,
            name.constrains (some (.ipAddress (.address (.ofBits other bits)))) =
              .ok .sameType := by
  refine ⟨?_, ?_, fun name read => ?_⟩
  · have masks : (∃ range, Network.ofMask? address mask = some range) ↔ ∃ ones, IsMask mask ones :=
      Network.exists_ofMask?_iff version.width_lt
    rw [← masks]
    simp only [ofElement_maskedElement_eq_ok_iff]
    exact ⟨fun ⟨_, range, found, _⟩ => ⟨range, found⟩, fun ⟨range, found⟩ => ⟨_, range, found, rfl⟩⟩
  · rw [maskedElement, ofElement_address, AddressRange.ofOctets_plain_maskedOctets]
    exact ⟨_, rfl⟩
  · obtain ⟨range, found, rfl⟩ := ofElement_maskedElement_eq_ok_iff.1 read
    obtain ⟨rfl, rfl⟩ := Network.mask_of_ofMask? found
    refine ⟨?_, fun bits => ?_, fun other differs bits => ?_⟩
    · rw [toElement_address, maskedElement]
      cases version <;> rfl
    · exact congrArg Except.ok (AddressRange.relation_ofVersion version range bits)
    · exact congrArg Except.ok (AddressRange.relation_of_version_ne differs range bits)

/-- A mask that ends inside an octet, at an address with host bits, the last address below it and
the first one beyond, and a mask with a hole. -/
theorem constrains_of_masked_host_bits :
    ∃ name, ofElement .subtree (maskedElement .v4 0x0a141e28 0xfff00000) = .ok name ∧
      name.toElement = .ok (maskedElement .v4 0x0a141e28 0xfff00000) ∧
      name.constrains (some (.ipAddress (.address (.v4 0x0a1fffff)))) = .ok .narrows ∧
      name.constrains (some (.ipAddress (.address (.v4 0x0a200000)))) = .ok .sameType ∧
      name.constrains (some (.ipAddress (.address (.v6 0x0a1fffff)))) = .ok .sameType ∧
      ∀ other, ofElement .subtree (maskedElement .v4 0x0a141e28 0xff0f0000) ≠ .ok other := by
  have ones : IsMask (0xfff00000 : BitVec 32) 12 := by
    unfold IsMask
    decide
  have hole : ¬ ∃ ones, IsMask (0xff0f0000 : BitVec 32) ones := by
    rintro ⟨ones, -, bits⟩
    have few : ¬ 8 < ones := of_decide_eq_false (bits 8 (by decide)).symm
    have many : 12 < ones := of_decide_eq_true (bits 12 (by decide)).symm
    omega
  obtain ⟨accepts, -, means⟩ := constrains_of_masked .v4 0x0a141e28 0xfff00000
  obtain ⟨name, read⟩ := accepts.2 ⟨12, ones⟩
  obtain ⟨written, here, there⟩ := means name read
  refine ⟨name, read, written, ?_, ?_, there .v6 nofun 0x0a1fffff, fun other found => ?_⟩
  · exact (here 0x0a1fffff).trans (congrArg _ (if_pos (by decide)))
  · exact (here 0x0a200000).trans (congrArg _ (if_neg (by decide)))
  · obtain ⟨refused, -⟩ := constrains_of_masked .v4 0x0a141e28 0xff0f0000
    exact hole (refused.1 ⟨other, found⟩)

end GeneralName

end X509
