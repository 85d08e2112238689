/-
**Written values and the values they spell.**

A value is written with its announced length in the shortest form. When do these octets spell the
value itself? The identifier must be that of the tag, with a number below 31; the form must fit the
tag; the length must be that of the contents, and below `256 ^ 8`; and the contents must spell the
values inside. If the octets spell any one value at all, the length is small enough: a spelled value
has fewer contents octets than that, so there is no room for more.

* `Length.size_eq_length_write` — counting the octets of a length against writing it.
* `Tlv.length_write` — counting the octets of a value against writing it.
* `Tlv.spellsItself_leaf_iff`, `Tlv.spellsItself_node_iff` — the two forms of values.
* `Tlv.length_lt_of_spelled_write` — the length of a written value that spells a value.
* `Tlv.SpellsItself.unique` — such octets spell no other value.
-/

import X509.Proofs.Octets
import X509.Proofs.Tlv.Acceptance

namespace X509

/-! ### Lengths -/

namespace Length

/-- One more than the largest length. -/
def bound : Nat := 256 ^ maxOctets

theorem length_spelling_le {spelling : Octets} {length : Nat} (spelled : Spelled spelling length) :
    spelling.length ≤ 1 + maxOctets := by
  cases spelled with
  | short octet below => exact Nat.le_add_right 1 maxOctets
  | long digits filled few =>
    rw [List.length_cons, Nat.add_comm]
    exact Nat.add_le_add_left few 1

theorem lt_bound_of_spelled {spelling : Octets} {length : Nat} (spelled : Spelled spelling length) :
    length < bound := by
  cases spelled with
  | short octet below => exact Nat.lt_trans octet.toNat_lt (by decide)
  | long digits filled few =>
    exact Nat.lt_of_lt_of_le (Octets.toNat_lt digits) (Nat.pow_le_pow_right (by decide) few)

theorem spelled_write_of_lt {length : Nat} (fits : length < bound) :
    Spelled (write length) length :=
  spelled_write (Octets.length_ofNat_le_iff.2 fits)

/-- **Counting the octets of a length agrees with writing it,** for every length that can be
written. Between two powers of 256 neither number changes. -/
theorem size_eq_length_write {length : Nat} (fits : length < bound) :
    size length = (write length).length := by
  unfold size write
  by_cases short : length < 0x80
  · simp [short]
  · have digits : (Octets.ofNat length).length = length.log2 / 8 + 1 :=
      Octets.length_ofNat (by omega)
    have bits : length.log2 < 64 := (Nat.log2_lt (by omega)).2 fits
    rw [if_neg short, if_neg short, List.length_cons, digits]
    unfold leadingZeros maxOctets
    omega

/-- A length that is too large takes more octets than any spelling. -/
theorem lt_length_write_of_bound_le {length : Nat} (large : bound ≤ length) :
    1 + maxOctets < (write length).length := by
  have digits : maxOctets < (Octets.ofNat length).length := by
    rw [← Nat.not_le, Octets.length_ofNat_le_iff]
    exact Nat.not_lt.2 large
  have long : ¬ length < 0x80 := by
    have least : 0x80 ≤ bound := by decide
    omega
  rw [write, if_neg long, List.length_cons]
  omega

/-- A smaller length takes no more octets. -/
theorem size_mono {one two : Nat} (le : one ≤ two) : size one ≤ size two := by
  unfold size leadingZeros maxOctets
  by_cases short : one < 0x80
  · rw [if_pos short]
    split <;> omega
  · have bits : one.log2 ≤ two.log2 :=
      (Nat.le_log2 (by omega)).2 (Nat.le_trans (Nat.log2_self_le (by omega)) le)
    rw [if_neg short, if_neg (by omega)]
    omega

/-- What follows a spelled length tells where the length ends. -/
theorem Spelled.split_unique {spelling spelling' rest rest' : Octets} {length length' : Nat}
    (spelled : Spelled spelling length) (spelled' : Spelled spelling' length')
    (same : spelling ++ rest = spelling' ++ rest') :
    spelling = spelling' ∧ length = length' ∧ rest = rest' := by
  have read := read_of_spelled spelled rest
  rw [same, read_of_spelled spelled' rest'] at read
  obtain ⟨rfl, rfl⟩ := Prod.mk.inj (Except.ok.inj read)
  exact ⟨List.append_cancel_right same, rfl, rfl⟩

end Length

/-! ### Tags -/

/-- **A tag that its identifier octet spells,** and whose number is not cut off. -/
structure Tag.Legible (tag : Tag) : Prop where
  spelled : ofOctet tag.toOctet = tag
  low : tag.toOctet &&& numberMask ≠ numberMask

theorem Tag.Legible.isConstructed_iff {tag : Tag} (legible : tag.Legible) :
    tag.isConstructed = true ↔ tag.toOctet &&& constructedBit ≠ 0 := by
  rw [← Tlv.isConstructed_ofOctet_eq_true_iff, legible.spelled]

/-- The numbers that are not all ones are slots of legible tags. -/
theorem Tag.legible_contextSpecific {slot : UInt8} (low : slot < numberMask) (constructed : Bool) :
    (contextSpecific slot constructed).Legible := by
  have table : ∀ number : Fin 256, UInt8.ofNat number.val < numberMask →
      ofOctet (contextSpecific (UInt8.ofNat number.val) constructed).toOctet =
          contextSpecific (UInt8.ofNat number.val) constructed ∧
        (contextSpecific (UInt8.ofNat number.val) constructed).toOctet &&& numberMask ≠
          numberMask := by
    cases constructed <;> decide +kernel
  have here := table ⟨slot.toNat, slot.toNat_lt⟩
  rw [UInt8.ofNat_toNat] at here
  exact ⟨(here low).1, (here low).2⟩

/-! ### Values -/

namespace Tlv

variable {tag : Tag} {data : Octets} {length : Nat} {children tlvs : List Tlv} {tlv other : Tlv}

/-- A value has the tag of the identifier octet that it is spelled with, and fewer contents octets
than the largest length. -/
theorem Spelled.identifier {octet : UInt8} {rest : Octets} (spelled : Spelled (octet :: rest) tlv) :
    tlv.tag = .ofOctet octet ∧ octet &&& Tag.numberMask ≠ Tag.numberMask ∧
      rest.length < 1 + Length.maxOctets + Length.bound := by
  have short {spelling contents : Octets} (measured : Length.Spelled spelling contents.length) :
      (spelling ++ contents).length < 1 + Length.maxOctets + Length.bound := by
    have few := Length.length_spelling_le measured
    have below := Length.lt_bound_of_spelled measured
    rw [List.length_append]
    omega
  cases spelled with
  | leaf low primitive measured => exact ⟨rfl, low, short measured⟩
  | node low constructed measured inside => exact ⟨rfl, low, short measured⟩

/-- **Announced truly, a value has as many octets as `encodedLength` says.** -/
theorem length_write (announced : tlv.length = tlv.contents.length)
    (fits : tlv.length < Length.bound) : tlv.write.length = tlv.encodedLength := by
  rw [write_eq, List.length_cons, List.length_append, ← announced, encodedLength,
    Length.size_eq_length_write fits]
  omega

/-- **When what is written spells a value, the length was one that can be written.** -/
theorem length_lt_of_spelled_write (announced : tlv.length = tlv.contents.length)
    (spelled : Spelled tlv.write other) : tlv.length < Length.bound := by
  rw [write_eq] at spelled
  obtain ⟨-, -, short⟩ := spelled.identifier
  rcases Nat.lt_or_ge tlv.length Length.bound with fits | large
  · exact fits
  · have long := Length.lt_length_write_of_bound_le large
    rw [List.length_append, ← announced] at short
    omega

theorem Spelled.of_leaf {octets : Octets} (spelled : Spelled octets (.leaf tag data)) :
    tag.isConstructed = false := by
  cases spelled with
  | leaf low primitive measured =>
    rw [← Bool.not_eq_true, isConstructed_ofOctet_eq_true_iff, not_not]
    exact primitive

theorem Spelled.of_node {octets : Octets} (spelled : Spelled octets (.node tag length children)) :
    tag.isConstructed = true ∧ ∃ octet spelling contents,
      octets = octet :: (spelling ++ contents) ∧ Length.Spelled spelling contents.length ∧
        length = contents.length ∧ SpelledAll contents children := by
  cases spelled with
  | @node octet spelling contents _ low constructed measured inside =>
    exact ⟨isConstructed_ofOctet_eq_true_iff.2 constructed, octet, spelling, contents, rfl,
      measured, rfl, inside⟩

/-- **A value that its octets spell.** -/
def SpellsItself (tlv : Tlv) : Prop :=
  Spelled tlv.write tlv

/-- A value that its octets spell is the only one. -/
theorem SpellsItself.unique (spelled : SpellsItself tlv) (spelled' : Spelled tlv.write other) :
    other = tlv :=
  (List.cons.inj ((SpelledAll.single spelled').unique (.single spelled))).1

theorem SpellsItself.legible (spelled : SpellsItself tlv) : tlv.tag.Legible := by
  rw [SpellsItself, write_eq] at spelled
  obtain ⟨same, low, -⟩ := spelled.identifier
  exact ⟨same.symm, low⟩

theorem spellsItself_leaf_iff :
    SpellsItself (.leaf tag data) ↔
      tag.Legible ∧ tag.isConstructed = false ∧ data.length < Length.bound := by
  constructor
  · intro spelled
    exact ⟨spelled.legible, spelled.of_leaf, length_lt_of_spelled_write rfl spelled⟩
  · rintro ⟨legible, primitive, fits⟩
    rw [← Bool.not_eq_true, legible.isConstructed_iff, not_not] at primitive
    have spelled := Spelled.leaf legible.low primitive (Length.spelled_write_of_lt fits)
    rwa [legible.spelled] at spelled

theorem spellsItself_node_iff :
    SpellsItself (.node tag length children) ↔
      tag.Legible ∧ tag.isConstructed = true ∧ length = (writeAll children).length ∧
        length < Length.bound ∧ SpelledAll (writeAll children) children := by
  constructor
  · intro spelled
    obtain ⟨constructed, octet, spelling, contents, whole, measured, rfl, inside⟩ := spelled.of_node
    have fits := Length.lt_bound_of_spelled measured
    have shortest := Length.spelled_write_of_lt fits
    obtain ⟨-, -, rfl⟩ := shortest.split_unique measured (List.cons.inj whole).2
    exact ⟨spelled.legible, constructed, rfl, fits, inside⟩
  · rintro ⟨legible, constructed, rfl, fits, inside⟩
    rw [legible.isConstructed_iff] at constructed
    have spelled := Spelled.node legible.low constructed (Length.spelled_write_of_lt fits) inside
    rwa [legible.spelled] at spelled

/-- What its octets spell is announced with the length it has. -/
theorem SpellsItself.announced (spelled : SpellsItself tlv) : tlv.length = tlv.contents.length := by
  cases tlv with
  | leaf tag data => rfl
  | node tag length children => exact (spellsItself_node_iff.1 spelled).2.2.1

/-! ### Values in a row -/

theorem spelledAll_writeAll (spelled : ∀ tlv ∈ tlvs, SpellsItself tlv) :
    SpelledAll (writeAll tlvs) tlvs := by
  induction tlvs with
  | nil => exact .nil
  | cons tlv tlvs ih =>
    exact .cons (spelled tlv List.mem_cons_self)
      (ih fun other member => spelled other (List.mem_cons_of_mem tlv member))

theorem length_writeAll (spelled : ∀ tlv ∈ tlvs, SpellsItself tlv) :
    (writeAll tlvs).length = encodedLengthAll tlvs := by
  induction tlvs with
  | nil => rfl
  | cons tlv tlvs ih =>
    have itself := spelled tlv List.mem_cons_self
    have fits := length_lt_of_spelled_write itself.announced itself
    have here := length_write itself.announced fits
    have there := ih fun other member => spelled other (List.mem_cons_of_mem tlv member)
    rw [writeAll, List.length_append, here, there, encodedLengthAll]

/-- **A node made of values that their octets spell is one, if its tag and its length can be
written.** -/
theorem spellsItself_ofChildren_iff (spelled : ∀ tlv ∈ tlvs, SpellsItself tlv) :
    SpellsItself (ofChildren tag tlvs) ↔
      tag.Legible ∧ tag.isConstructed = true ∧ encodedLengthAll tlvs < Length.bound := by
  rw [ofChildren, spellsItself_node_iff, length_writeAll spelled]
  constructor
  · rintro ⟨legible, constructed, -, fits, -⟩
    exact ⟨legible, constructed, fits⟩
  · rintro ⟨legible, constructed, fits⟩
    exact ⟨legible, constructed, rfl, fits, spelledAll_writeAll spelled⟩

/-- A value with fewer contents octets is encoded in no more octets. -/
theorem encodedLength_mono (le : tlv.length ≤ other.length) :
    tlv.encodedLength ≤ other.encodedLength :=
  Nat.add_le_add (Nat.add_le_add_left (Length.size_mono le) 1) le

end Tlv

end X509
