/-
**Values that were read, written again.**

A node keeps the length it was read with, and is written with it. The lengths of the values inside
are written in the shortest form, though. So when one of those was spelled in a longer form, the
node announces more contents than are written for it, and what is written reads back as something
else or not at all. Every other value reads back from what is written for it.

* `Tlv.length_writeAll_le` — writing never takes more octets than were read.
* `Tlv.Spelled.spellsItself` — a value reads back when it is announced truly at every depth.
* `Tlv.Shortest`, `Tlv.ShortestInside` — octets with all lengths, or all but the outermost one, in
  the shortest form.
* `Tlv.readAll_writeAll_iff_announced` — which octets read back, seen from the values and from the
  octets.
-/

import X509.Proofs.Tlv.Building

namespace X509

/-! ### Lengths -/

/-- Octets that are as few as their number needs are its shortest form. -/
theorem Octets.ofNat_toNat_of_length {octets : Octets}
    (few : (ofNat octets.toNat).length = octets.length) : ofNat octets.toNat = octets := by
  have fixed := ofNatFixed_toNat (ofNat octets.toNat)
  rw [toNat_ofNat, few, ofNatFixed_toNat] at fixed
  exact fixed.symm

namespace Length

variable {spelling : Octets} {length : Nat}

/-- **No spelling of a length is shorter than the one that is written.** -/
theorem length_write_le (spelled : Spelled spelling length) :
    (write length).length ≤ spelling.length := by
  unfold write
  cases spelled with
  | short octet below =>
    have short : octet.toNat < 0x80 := UInt8.lt_iff_toNat_lt.1 below
    rw [if_pos short]
    exact Nat.le_refl 1
  | long digits filled few =>
    have least : (Octets.ofNat digits.toNat).length ≤ digits.length :=
      Octets.length_ofNat_le_iff.2 (Octets.toNat_lt digits)
    split
    · exact Nat.le_add_left 1 digits.length
    · exact Nat.succ_le_succ least

/-- A spelling that is no longer than the one that is written is that one. -/
theorem write_eq_of_length (spelled : Spelled spelling length)
    (few : (write length).length = spelling.length) : write length = spelling := by
  unfold write at few ⊢
  cases spelled with
  | short octet below =>
    have short : octet.toNat < 0x80 := UInt8.lt_iff_toNat_lt.1 below
    rw [if_pos short, UInt8.ofNat_toNat]
  | long digits filled _ =>
    have positive : 0 < digits.length := List.length_pos_iff.2 filled
    split at few
    · simp only [List.length_cons, List.length_nil] at few
      omega
    · next large =>
      simp only [List.length_cons, Nat.add_right_cancel_iff] at few
      rw [if_neg large, Octets.ofNat_toNat_of_length few]

end Length

theorem Tag.legible_ofOctet {octet : UInt8} (low : octet &&& numberMask ≠ numberMask) :
    (ofOctet octet).Legible :=
  ⟨by rw [toOctet_ofOctet], by rwa [toOctet_ofOctet]⟩

namespace Tlv

variable {octets : Octets} {tlv inner : Tlv} {tlvs children : List Tlv}

/-! ### Writing what was read -/

mutual

/-- **Writing a value takes no more octets than were read.** -/
theorem Spelled.length_write_le {octets : Octets} {tlv : Tlv} :
    Spelled octets tlv → tlv.write.length ≤ octets.length
  | .leaf low primitive measured => by
    have least := Length.length_write_le measured
    simp only [write, List.length_cons, List.length_append]
    omega
  | .node low constructed measured inside => by
    have least := Length.length_write_le measured
    have deeper := length_writeAll_le inside
    simp only [write, List.length_cons, List.length_append]
    omega

theorem length_writeAll_le {octets : Octets} {tlvs : List Tlv} :
    SpelledAll octets tlvs → (writeAll tlvs).length ≤ octets.length
  | .nil => Nat.le_refl 0
  | .cons head tail => by
    rw [writeAll, List.length_append, List.length_append]
    exact Nat.add_le_add head.length_write_le (length_writeAll_le tail)

end

/-- What is written for the contents of a value has no more octets than the value announces. -/
theorem Spelled.length_contents_le (spelled : Spelled octets tlv) :
    tlv.contents.length ≤ tlv.length := by
  cases spelled with
  | leaf low primitive measured => exact Nat.le_refl _
  | node low constructed measured inside => exact length_writeAll_le inside

/-- What is written for a value has no more octets than were counted. -/
theorem Spelled.length_write_le_encodedLength (spelled : Spelled octets tlv) :
    tlv.write.length ≤ tlv.encodedLength := by
  have within := spelled.length_contents_le
  have measured : tlv.length < Length.bound := by
    cases spelled with
    | leaf low primitive measured => exact Length.lt_bound_of_spelled measured
    | node low constructed measured inside => exact Length.lt_bound_of_spelled measured
  rw [write_eq, encodedLength, Length.size_eq_length_write measured, List.length_cons,
    List.length_append]
  omega

/-- A value is counted to be no longer than its spelling. -/
theorem Spelled.encodedLength_le (spelled : Spelled octets tlv) :
    tlv.encodedLength ≤ octets.length := by
  have counted {octet : UInt8} {spelling contents : Octets}
      (measured : Length.Spelled spelling contents.length) :
      1 + Length.size contents.length + contents.length ≤
        (octet :: (spelling ++ contents)).length := by
    have least := Length.length_write_le measured
    rw [Length.size_eq_length_write (Length.lt_bound_of_spelled measured), List.length_cons,
      List.length_append]
    omega
  cases spelled with
  | leaf low primitive measured => exact counted measured
  | node low constructed measured inside => exact counted measured

/-- **What occurs in a spelled value is spelled** by some of its octets. -/
theorem Spelled.of_occurs (spelled : Spelled octets tlv) (occurs : Occurs inner tlv) :
    ∃ piece, Spelled piece inner := by
  induction occurs generalizing octets with
  | here => exact ⟨octets, spelled⟩
  | @inside tag length children child member _ ih =>
    obtain ⟨-, _, _, contents, -, -, -, row⟩ := spelled.of_node
    obtain ⟨parts, split, rfl⟩ := spelledAll_iff_isSplit.1 row
    obtain ⟨part, here, rfl⟩ := List.mem_map.1 member
    exact ih (split.spelled part here)

/-! ### Values that read back -/

/-- Values that their octets spell in a row are spelled by their octets one by one: no piece is
longer than what is written for its value, and together they are as long. -/
theorem forall_spellsItself_of_spelledAll (spelled : SpelledAll (writeAll tlvs) tlvs) :
    ∀ tlv ∈ tlvs, SpellsItself tlv := by
  induction tlvs with
  | nil => nofun
  | cons tlv tlvs ih =>
    obtain ⟨front, tlv', back, others, head, tail, whole, same⟩ :=
      spelled.exists_of_ne_nil (by simp [writeAll, write_eq])
    obtain ⟨rfl, rfl⟩ := List.cons.inj same
    have total := congrArg List.length whole
    rw [writeAll, List.length_append, List.length_append] at total
    have here := head.length_write_le
    have there := length_writeAll_le tail
    obtain ⟨rfl, rfl⟩ := List.append_inj whole (by omega)
    intro other member
    rcases List.mem_cons.1 member with rfl | member
    · exact head
    · exact ih tail other member

theorem SpellsItself.of_occurs (spelled : SpellsItself tlv) (occurs : Occurs inner tlv) :
    SpellsItself inner := by
  induction occurs with
  | here => exact spelled
  | @inside tag length children child member _ ih =>
    obtain ⟨-, -, -, -, row⟩ := spellsItself_node_iff.1 spelled
    exact ih (forall_spellsItself_of_spelledAll row child member)

/-- A value that is announced truly at every depth. -/
def Announced (tlv : Tlv) : Prop :=
  ∀ inner, Occurs inner tlv → inner.length = inner.contents.length

theorem Announced.of_mem {tag : Tag} {length : Nat}
    (announced : (Tlv.node tag length children).Announced) (member : tlv ∈ children) :
    tlv.Announced :=
  fun inner occurs => announced inner (.inside member occurs)

mutual

/-- **Announced truly at every depth, a value that was read is spelled by its octets.** -/
theorem Spelled.spellsItself {octets : Octets} {tlv : Tlv} (announced : tlv.Announced) :
    Spelled octets tlv → SpellsItself tlv
  | .leaf low primitive measured => by
    refine spellsItself_leaf_iff.2
      ⟨Tag.legible_ofOctet low, ?_, Length.lt_bound_of_spelled measured⟩
    rwa [← Bool.not_eq_true, isConstructed_ofOctet_eq_true_iff, not_not]
  | .node low constructed measured inside => by
    have each := forall_spellsItself (fun _ member => announced.of_mem member) inside
    exact spellsItself_node_iff.2
      ⟨Tag.legible_ofOctet low, isConstructed_ofOctet_eq_true_iff.2 constructed,
        announced _ .here, Length.lt_bound_of_spelled measured, spelledAll_writeAll each⟩

theorem forall_spellsItself {octets : Octets} {tlvs : List Tlv}
    (announced : ∀ tlv ∈ tlvs, tlv.Announced) :
    SpelledAll octets tlvs → ∀ tlv ∈ tlvs, SpellsItself tlv
  | .nil => nofun
  | .cons head tail => by
    obtain ⟨here, others⟩ := List.forall_mem_cons.1 announced
    exact List.forall_mem_cons.2 ⟨head.spellsItself here, forall_spellsItself others tail⟩

end

/-! ### Shortest lengths -/

mutual

/-- Octets that spell a value, every length among them in the shortest form. -/
inductive Shortest : Octets → Tlv → Prop where
  | leaf {octet : UInt8} {data : Octets} (low : octet &&& Tag.numberMask ≠ Tag.numberMask)
      (primitive : octet &&& Tag.constructedBit = 0) (fits : data.length < Length.bound) :
      Shortest (octet :: (Length.write data.length ++ data)) (.leaf (.ofOctet octet) data)
  | node {octet : UInt8} {contents : Octets} {children : List Tlv}
      (low : octet &&& Tag.numberMask ≠ Tag.numberMask)
      (constructed : octet &&& Tag.constructedBit ≠ 0) (fits : contents.length < Length.bound)
      (inside : ShortestAll contents children) :
      Shortest (octet :: (Length.write contents.length ++ contents))
        (.node (.ofOctet octet) contents.length children)

/-- Octets that spell values in a row, every length among them in the shortest form. -/
inductive ShortestAll : Octets → List Tlv → Prop where
  | nil : ShortestAll [] []
  | cons {first rest : Octets} {tlv : Tlv} {tlvs : List Tlv} (head : Shortest first tlv)
      (tail : ShortestAll rest tlvs) : ShortestAll (first ++ rest) (tlv :: tlvs)

end

/-- Octets that spell a value, every length among them but perhaps its own in the shortest form. -/
inductive ShortestInside : Octets → Tlv → Prop where
  | leaf {octets : Octets} {tag : Tag} {data : Octets} (spelled : Spelled octets (.leaf tag data)) :
      ShortestInside octets (.leaf tag data)
  | node {octet : UInt8} {spelling contents : Octets} {children : List Tlv}
      (low : octet &&& Tag.numberMask ≠ Tag.numberMask)
      (constructed : octet &&& Tag.constructedBit ≠ 0)
      (measured : Length.Spelled spelling contents.length)
      (inside : ShortestAll contents children) :
      ShortestInside (octet :: (spelling ++ contents))
        (.node (.ofOctet octet) contents.length children)

mutual

theorem Shortest.spelled {octets : Octets} {tlv : Tlv} : Shortest octets tlv → Spelled octets tlv
  | .leaf low primitive fits => .leaf low primitive (Length.spelled_write_of_lt fits)
  | .node low constructed fits inside =>
    .node low constructed (Length.spelled_write_of_lt fits) inside.spelledAll

theorem ShortestAll.spelledAll {octets : Octets} {tlvs : List Tlv} :
    ShortestAll octets tlvs → SpelledAll octets tlvs
  | .nil => .nil
  | .cons head tail => .cons head.spelled tail.spelledAll

end

mutual

/-- In the shortest form, octets are what is written for the value they spell. -/
theorem Shortest.write_eq {octets : Octets} {tlv : Tlv} :
    Shortest octets tlv → tlv.write = octets
  | .leaf low primitive fits => by rw [write, Tag.toOctet_ofOctet]
  | .node low constructed fits inside => by rw [write, Tag.toOctet_ofOctet, writeAll_eq inside]

theorem writeAll_eq {octets : Octets} {tlvs : List Tlv} :
    ShortestAll octets tlvs → writeAll tlvs = octets
  | .nil => rfl
  | .cons head tail => by rw [writeAll, head.write_eq, writeAll_eq tail]

end

mutual

/-- Octets that are no more than what is written for a value they spell are in the shortest form. -/
theorem Spelled.shortest {octets : Octets} {tlv : Tlv} (few : octets.length ≤ tlv.write.length) :
    Spelled octets tlv → Shortest octets tlv
  | @Spelled.leaf octet spelling data low primitive measured => by
    have least := Length.length_write_le measured
    simp only [write, List.length_cons, List.length_append] at few
    obtain rfl := Length.write_eq_of_length measured (by omega)
    exact .leaf low primitive (Length.lt_bound_of_spelled measured)
  | @Spelled.node octet spelling contents children low constructed measured inside => by
    have least := Length.length_write_le measured
    have deeper := length_writeAll_le inside
    simp only [write, List.length_cons, List.length_append] at few
    obtain rfl := Length.write_eq_of_length measured (by omega)
    exact .node low constructed (Length.lt_bound_of_spelled measured)
      (shortestAll (by omega) inside)

theorem shortestAll {octets : Octets} {tlvs : List Tlv}
    (few : octets.length ≤ (writeAll tlvs).length) :
    SpelledAll octets tlvs → ShortestAll octets tlvs
  | .nil => .nil
  | .cons head tail => by
    have here := head.length_write_le
    have there := length_writeAll_le tail
    rw [writeAll, List.length_append, List.length_append] at few
    exact .cons (head.shortest (by omega)) (shortestAll (by omega) tail)

end

/-- **Octets are written again exactly when every length among them is in the shortest form.** -/
theorem SpelledAll.writeAll_eq_iff (spelled : SpelledAll octets tlvs) :
    writeAll tlvs = octets ↔ ShortestAll octets tlvs := by
  constructor
  · rintro rfl
    exact shortestAll (Nat.le_refl _) spelled
  · exact writeAll_eq

/-! ### Reading what was written -/

/-- **A value that was read is spelled by its octets when every length inside it was spelled in the
shortest form.** Its own length is written in that form in any case. -/
theorem Spelled.spellsItself_iff_shortestInside (spelled : Spelled octets tlv) :
    SpellsItself tlv ↔ ShortestInside octets tlv := by
  constructor
  · intro itself
    cases spelled with
    | leaf low primitive measured => exact .leaf (.leaf low primitive measured)
    | node low constructed measured inside =>
      obtain ⟨-, -, announced, -, -⟩ := spellsItself_node_iff.1 itself
      exact .node low constructed measured (shortestAll (Nat.le_of_eq announced) inside)
  · rintro (⟨leaf⟩ | ⟨low, constructed, measured, inside⟩)
    · refine leaf.spellsItself fun inner occurs => ?_
      cases occurs
      rfl
    · have row := inside.spelledAll
      obtain rfl := writeAll_eq inside
      exact spellsItself_node_iff.2 ⟨Tag.legible_ofOctet low,
        isConstructed_ofOctet_eq_true_iff.2 constructed, rfl,
        Length.lt_bound_of_spelled measured, row⟩

/-- Values in a row read back from what is written for them when each of them does. -/
theorem spelledAll_writeAll_iff :
    SpelledAll (writeAll tlvs) tlvs ↔ ∀ tlv ∈ tlvs, SpellsItself tlv :=
  ⟨forall_spellsItself_of_spelledAll, spelledAll_writeAll⟩

/-- **Which values read back from what is written for them.** Whatever was read announces and is
counted to have at least as many octets as are written for it, at every depth. It reads back when
these numbers agree at every depth, that is, when no length inside a value was spelled in a longer
form than the shortest. -/
theorem readAll_writeAll_iff_announced (read : readAll octets = .ok tlvs) :
    (∀ tlv ∈ tlvs, ∀ inner, Occurs inner tlv →
        inner.contents.length ≤ inner.length ∧ inner.write.length ≤ inner.encodedLength) ∧
      (readAll (writeAll tlvs) = .ok tlvs ↔
        ∀ tlv ∈ tlvs, ∀ inner, Occurs inner tlv →
          inner.length = inner.contents.length ∧ inner.encodedLength = inner.write.length) ∧
        (readAll (writeAll tlvs) = .ok tlvs ↔
          ∃ parts, IsSplit octets parts ∧ parts.map Prod.snd = tlvs ∧
            ∀ part ∈ parts, ShortestInside part.1 part.2) := by
  obtain ⟨parts, split, rfl⟩ := spelledAll_iff_isSplit.1 (readAll_eq_ok_iff.1 read)
  have piece : ∀ tlv ∈ parts.map Prod.snd, ∃ octets, Spelled octets tlv := by
    intro tlv member
    obtain ⟨part, here, rfl⟩ := List.mem_map.1 member
    exact ⟨part.1, split.spelled part here⟩
  have reread : readAll (writeAll (parts.map Prod.snd)) = .ok (parts.map Prod.snd) ↔
      ∀ tlv ∈ parts.map Prod.snd, SpellsItself tlv :=
    readAll_eq_ok_iff.trans spelledAll_writeAll_iff
  refine ⟨?_, reread.trans ⟨?_, ?_⟩, reread.trans ⟨?_, ?_⟩⟩
  · intro tlv member inner occurs
    obtain ⟨octets, spelled⟩ := piece tlv member
    obtain ⟨octets, spelled⟩ := spelled.of_occurs occurs
    exact ⟨spelled.length_contents_le, spelled.length_write_le_encodedLength⟩
  · intro itself tlv member inner occurs
    exact ((itself tlv member).of_occurs occurs).counted.symm
  · intro counted tlv member
    obtain ⟨octets, spelled⟩ := piece tlv member
    exact spelled.spellsItself fun inner occurs => (counted tlv member inner occurs).1
  · intro itself
    refine ⟨parts, split, rfl, fun part here => ?_⟩
    exact (split.spelled part here).spellsItself_iff_shortestInside.1
      (itself part.2 (List.mem_map_of_mem here))
  · rintro ⟨parts', split', -, shortest⟩ tlv member
    obtain rfl := split.unique split'
    obtain ⟨part, here, rfl⟩ := List.mem_map.1 member
    exact (split.spelled part here).spellsItself_iff_shortestInside.2 (shortest part here)

/-- A sequence whose own length is spelled in two octets reads back. -/
theorem readAll_writeAll_padded_outside :
    readAll [0x30, 0x81, 0x03, 0x04, 0x01, 0x05] =
        .ok [.node (.plain 0x30) 3 [.leaf (.plain 0x04) [0x05]]] ∧
      readAll (writeAll [.node (.plain 0x30) 3 [.leaf (.plain 0x04) [0x05]]]) =
        .ok [.node (.plain 0x30) 3 [.leaf (.plain 0x04) [0x05]]] := by
  have read : readAll [0x30, 0x81, 0x03, 0x04, 0x01, 0x05] =
      .ok [.node (.plain 0x30) 3 [.leaf (.plain 0x04) [0x05]]] := by decide +kernel
  obtain ⟨-, announced, -⟩ := readAll_writeAll_iff_announced read
  refine ⟨read, announced.2 ?_⟩
  intro tlv member inner occurs
  obtain rfl := List.mem_singleton.1 member
  cases occurs with
  | here => exact ⟨by decide +kernel, by decide +kernel⟩
  | inside within deeper =>
    obtain rfl := List.mem_singleton.1 within
    cases deeper
    exact ⟨by decide +kernel, by decide +kernel⟩

/-- A sequence of an octet string, whose length has a leading zero, and a null value after it. What
is written for them reads back as a sequence with the null value inside. -/
theorem padded_length_not_announced :
    readAll [0x30, 0x05, 0x04, 0x82, 0x00, 0x01, 0x05, 0x05, 0x00] =
        .ok [.node (.plain 0x30) 5 [.leaf (.plain 0x04) [0x05]], .leaf (.plain 0x05) []] ∧
      (Tlv.node (.plain 0x30) 5 [.leaf (.plain 0x04) [0x05]]).contents.length = 3 ∧
      (Tlv.node (.plain 0x30) 5 [.leaf (.plain 0x04) [0x05]]).encodedLength = 7 ∧
      (Tlv.node (.plain 0x30) 5 [.leaf (.plain 0x04) [0x05]]).write.length = 5 ∧
      writeAll [.node (.plain 0x30) 5 [.leaf (.plain 0x04) [0x05]], .leaf (.plain 0x05) []] =
        [0x30, 0x05, 0x04, 0x01, 0x05, 0x05, 0x00] ∧
      readAll [0x30, 0x05, 0x04, 0x01, 0x05, 0x05, 0x00] =
        .ok [.node (.plain 0x30) 5 [.leaf (.plain 0x04) [0x05], .leaf (.plain 0x05) []]] := by
  refine ⟨?_, ?_, ?_, ?_, ?_, ?_⟩ <;> decide +kernel

end Tlv

end X509
