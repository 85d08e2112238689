/-
**Elements and the values they are encoded as, whatever their size.**

An element and an encoded value stand for each other when each is made from the other. To read the
octets of the value as well, its length must fit a word, and so must the lengths inside it; but the
length of a node bounds those inside. So the bound is asked for once, of the whole, and elements are
put together without a thought to it.

* `Element.Coded` — an element and an encoded value that stand for each other.
* `Element.Coded.of_leaf`, `Element.IsNode.coded` — leaves and nodes.
* `Element.Coded.exists_octets` — the octets of the element, and when they read back.
-/

import X509.Proofs.Element.Tagging
import X509.Proofs.Tlv.Building

namespace X509

/-- Counting the octets of a length never counts more than are written for it. -/
theorem Length.size_le_length_write (length : Nat) : size length ≤ (write length).length := by
  rcases Nat.lt_or_ge length bound with fits | large
  · exact Nat.le_of_eq (size_eq_length_write fits)
  · have most : size length ≤ 1 + maxOctets := by
      unfold size maxOctets
      split <;> omega
    exact Nat.le_of_lt (Nat.lt_of_le_of_lt most (lt_length_write_of_bound_le large))

namespace Element

variable {element inner : Element} {members elements : List Element} {tlv : Tlv} {tlvs : List Tlv}
  {tag : Tag} {data : Octets}

/-- **An element and an encoded value that stand for each other,** the octets of the value included
if their number fits a word. -/
structure Coded (element : Element) (tlv : Tlv) : Prop where
  written : element.toTlv = .ok tlv
  read : ofTlv tlv = .ok element
  counted : tlv.encodedLength ≤ tlv.write.length
  spelled : tlv.encodedLength < Length.bound → tlv.SpellsItself

theorem Sound.coded (sound : Sound element tlv) : Coded element tlv where
  written := sound.written
  read := sound.read
  counted := Nat.le_of_eq sound.spelled.counted.1
  spelled _ := sound.spelled

theorem Coded.sound (coded : Coded element tlv) (fits : tlv.encodedLength < Length.bound) :
    Sound element tlv :=
  ⟨coded.written, coded.spelled fits, coded.read⟩

/-! ### Leaves and nodes -/

/-- What is written for contents counted right is counted right. -/
theorem encodedLength_le_of_contents (announced : tlv.length ≤ tlv.contents.length) :
    tlv.encodedLength ≤ tlv.write.length := by
  have size := Length.size_le_length_write tlv.length
  rw [Tlv.encodedLength, Tlv.write_eq, List.length_cons, List.length_append]
  omega

/-- **A leaf whose tag can be written stands for the element it is read as.** -/
theorem Coded.of_leaf (written : element.toTlv = .ok (.leaf tag data))
    (read : ofTlv (.leaf tag data) = .ok element) (legible : tag.Legible)
    (primitive : tag.isConstructed = false) : Coded element (.leaf tag data) where
  written := written
  read := read
  counted := encodedLength_le_of_contents (Nat.le_refl _)
  spelled fits := Tlv.spellsItself_leaf_iff.2
    ⟨legible, primitive, Nat.lt_trans (Tlv.length_lt_encodedLength (.leaf tag data)) fits⟩

theorem encodedLengthAll_le_of_coded (coded : List.Forall₂ Coded members tlvs) :
    Tlv.encodedLengthAll tlvs ≤ (Tlv.writeAll tlvs).length := by
  induction coded with
  | nil => exact Nat.le_refl 0
  | cons head _ ih =>
    rw [Tlv.encodedLengthAll, Tlv.writeAll, List.length_append]
    exact Nat.add_le_add head.counted ih

/-- Members that are encoded in few enough octets are sound. -/
theorem forall_sound_of_coded (coded : List.Forall₂ Coded members tlvs)
    (fits : Tlv.encodedLengthAll tlvs < Length.bound) : List.Forall₂ Sound members tlvs := by
  induction coded with
  | nil => exact .nil
  | cons head _ ih =>
    rw [Tlv.encodedLengthAll] at fits
    exact .cons (head.sound (by omega)) (ih (by omega))

/-- **A node whose tag can be written stands for the element of its members.** -/
theorem IsNode.coded (node : IsNode tag members element) (coded : List.Forall₂ Coded members tlvs)
    (legible : tag.Legible) : Coded element (.ofChildren tag tlvs) where
  written := node.toTlv (toTlvs_eq_ok_iff.2 (coded.imp fun _ _ coded => coded.written))
  read := node.ofTlv _ (ofTlvs_eq_ok_iff.2 (coded.flip.imp fun _ _ coded => coded.read))
  counted := encodedLength_le_of_contents (encodedLengthAll_le_of_coded coded)
  spelled fits := by
    have inner : Tlv.encodedLengthAll tlvs < Length.bound :=
      Nat.lt_trans (Tlv.length_lt_encodedLength (.ofChildren tag tlvs)) fits
    exact (node.sound (forall_sound_of_coded coded inner) legible inner).spelled

/-- Members that each stand for some value make a node that does. -/
theorem IsNode.exists_coded (node : IsNode tag members element)
    (each : ∀ member ∈ members, ∃ tlv, Coded member tlv) (legible : tag.Legible) :
    ∃ tlv, Coded element tlv := by
  obtain ⟨tlvs, coded⟩ := List.exists_forall₂ each
  exact ⟨_, node.coded coded legible⟩

/-- Fields that are each written as an element that stands for some value are written in a row. -/
theorem exists_fields {α : Type} {Writes : α → Element → Prop} {IsField : Element → α → Prop}
    {values : List α} (each : ∀ value ∈ values, ∃ field, Writes value field ∧ IsField field value ∧
      ∃ tlv, Coded field tlv) :
    ∃ fields, List.Forall₂ Writes values fields ∧ List.Forall₂ IsField fields values ∧
      ∀ field ∈ fields, ∃ tlv, Coded field tlv := by
  obtain ⟨fields, all⟩ := List.exists_forall₂ each
  exact ⟨fields, all.imp fun _ _ field => field.1, all.flip.imp fun _ _ field => field.2.1,
    all.forall_mem fun _ _ field => field.2.2⟩

/-! ### Octets -/

/-- **The octets of an element read back** if their number fits a word. -/
theorem Coded.exists_octets (coded : Coded element tlv) :
    element.toOctets = .ok tlv.write ∧
      (tlv.write.length < Length.bound → ofOctets tlv.write = .ok element) := by
  have written : element.toOctets = .ok tlv.write :=
    Except.map_eq_ok_iff.2 ⟨tlv, coded.written, rfl⟩
  refine ⟨written, fun fits => ?_⟩
  have sound := coded.sound (Nat.lt_of_le_of_lt coded.counted fits)
  exact sound.readsBack.read written

/-- Elements in a row read back from their octets if the number of these fits a word. -/
theorem listOfOctets_of_coded (coded : List.Forall₂ Coded elements tlvs)
    (fits : (Tlv.writeAll tlvs).length < Length.bound) :
    listOfOctets (Tlv.writeAll tlvs) = .ok elements := by
  have sound := forall_sound_of_coded coded
    (Nat.lt_of_le_of_lt (encodedLengthAll_le_of_coded coded) fits)
  have row := Tlv.spelledAll_writeAll (forall_spellsItself sound)
  refine Except.bind_eq_ok_iff.2 ⟨tlvs, ?_, ?_⟩
  · exact Except.mapError_eq_ok_iff.2 (Tlv.readAll_eq_ok_iff.2 row)
  · exact ofTlvs_eq_ok_iff.2 (coded.flip.imp fun _ _ coded => coded.read)

/-- The octets of an element are those of a single element. -/
theorem Coded.listOfOctets (coded : Coded element tlv) (fits : tlv.write.length < Length.bound) :
    listOfOctets tlv.write = .ok [element] := by
  have whole : Tlv.writeAll [tlv] = tlv.write := List.append_nil _
  have row := listOfOctets_of_coded (.cons coded .nil) (by rwa [whole])
  rwa [whole] at row

end Element

end X509
