/-
**An IMPLICIT tag replaces the identifier octet and nothing else.**

A value and the same value under another tag are spelled alike but for the first octet, as long as
both tags have the same form. So an element that reads back does so under an IMPLICIT tag too. Its
members need not read back one by one: what stands behind the identifier octet is the same as
before, and is read as the same members again.

* `Tlv.Spelled.withTag` — the spelling of a value under another tag.
* `Element.nativeType?` — the universal type that an IMPLICIT tag stands for.
* `Element.Retagged` — an element and what it is under an IMPLICIT tag.
* `Element.untag_eq_error` — the types that a tagged element cannot be read as.
* `Element.untag_implicit` — tags put on and taken off, with the octets.
-/

import X509.Proofs.Element.Tagging

namespace X509

/-! ### Values under another tag -/

namespace Tlv

variable {tag : Tag} {tlv : Tlv} {octets : Octets}

/-- The value with another tag. -/
def withTag (tag : Tag) : Tlv → Tlv
  | leaf _ data => leaf tag data
  | node _ length children => node tag length children

theorem write_withTag (tag : Tag) (tlv : Tlv) :
    (tlv.withTag tag).write = tlv.write.set 0 tag.toOctet := by
  cases tlv <;> rfl

/-- **With another identifier octet of the same form, octets spell the value under another tag.** -/
theorem Spelled.withTag (spelled : Spelled octets tlv) (legible : tag.Legible)
    (form : tag.isConstructed = tlv.tag.isConstructed) :
    Spelled (octets.set 0 tag.toOctet) (tlv.withTag tag) := by
  cases spelled with
  | leaf low primitive measured =>
    have primitive' : tag.toOctet &&& Tag.constructedBit = 0 := by
      by_contra marked
      have constructed := form.symm.trans (legible.isConstructed_iff.2 marked)
      exact isConstructed_ofOctet_eq_true_iff.1 constructed primitive
    have again := Spelled.leaf legible.low primitive' measured
    rwa [legible.spelled] at again
  | node low constructed measured inside =>
    have constructed' : tag.toOctet &&& Tag.constructedBit ≠ 0 :=
      legible.isConstructed_iff.1 (form.trans (isConstructed_ofOctet_eq_true_iff.2 constructed))
    have again := Spelled.node legible.low constructed' measured inside
    rwa [legible.spelled] at again

end Tlv

/-- The identifier octet of a context-specific tag: the class, the slot, and the form. -/
theorem Tag.toOctet_contextSpecific {slot : UInt8} (low : slot ≤ 30) (constructed : Bool) :
    (contextSpecific slot constructed).toOctet =
      0x80 + slot + if constructed then 0x20 else 0 := by
  have table : ∀ number : Fin 256, UInt8.ofNat number.val ≤ 30 →
      (contextSpecific (UInt8.ofNat number.val) constructed).toOctet =
        0x80 + UInt8.ofNat number.val + if constructed then 0x20 else 0 := by
    cases constructed <;> decide +kernel
  have here := table ⟨slot.toNat, slot.toNat_lt⟩
  rw [UInt8.ofNat_toNat] at here
  exact here low

namespace Element

variable {slot : UInt8} {constructed : Bool} {element inner : Element} {type : UniversalType}
  {tag : Tag} {members : List Element} {tlv other : Tlv} {octets : Octets}

/-! ### Native types -/

/-- The universal type of an element. Tagged elements have none, nor have values that were kept. -/
def nativeType? : Element → Option UniversalType
  | .sequence _ => some .sequence
  | .set _ => some .set
  | element => element.plainType?

/-- An element with a universal type is a node, or is written as plain data. -/
theorem nativeType?_cases (native : element.nativeType? = some type) :
    (type.isStructured = true ∧ ∃ tag members, IsNode tag members element) ∨
      (type.isStructured = false ∧ element.plainType? = some type) := by
  cases element with
  | sequence members =>
    cases native
    exact .inl ⟨rfl, _, members, .sequence⟩
  | set members =>
    cases native
    exact .inl ⟨rfl, _, members, .set⟩
  | contextSpecific | unread => cases native
  | _ =>
    cases native
    exact .inr ⟨rfl, rfl⟩

/-! ### Tags put on -/

/-- **An element and what it is under an IMPLICIT tag.** They are written as values, and read from
values, that differ in their tags only. -/
structure Retagged (slot : UInt8) (type : UniversalType) (element tagged : Element)
    (tlv other : Tlv) : Prop where
  put : implicit slot element = .ok tagged
  taken : untag type tagged = .ok element
  written : tagged.toTlv = .ok (tlv.withTag (.contextSpecific slot type.isStructured))
  read : ofTlv (other.withTag (.contextSpecific slot type.isStructured)) = .ok tagged

/-- The element of a node is written as a node with the same members. -/
theorem IsNode.exists_tlvs (node : IsNode tag members element)
    (written : element.toTlv = .ok tlv) :
    ∃ tlvs, toTlvs members = .ok tlvs ∧ tlv = .ofChildren tag tlvs := by
  cases node <;>
  · obtain ⟨tlvs, inside, rfl⟩ := Except.map_eq_ok_iff.1 written
    exact ⟨tlvs, inside, rfl⟩

/-- The element of a node is read from a node with the same members. -/
theorem IsNode.exists_children (node : IsNode tag members element)
    (read : Element.ofTlv tlv = .ok element) :
    ∃ length children, tlv = .node tlv.tag length children ∧ ofTlvs children = .ok members := by
  cases tlv with
  | leaf tag' data =>
    exfalso
    cases tag' with
    | contextSpecific slot form =>
      cases form <;> cases read
      cases node
    | plain octet =>
      rcases ofData_cases read with ⟨type, plain⟩ | rfl
      · cases node <;> cases plain
      · cases node
  | node tag' length children =>
    refine ⟨length, children, rfl, ?_⟩
    unfold Element.ofTlv at read
    split at read
    · next same => cases same
    · next same => cases same
    · next same => cases same
    · cases read
      cases node
    · next same =>
      cases same
      obtain ⟨found, inside, rfl⟩ := Except.map_eq_ok_iff.1 read
      cases node
      exact inside
    · next same =>
      cases same
      split at read
      · obtain ⟨found, inside, rfl⟩ := Except.map_eq_ok_iff.1 read
        cases node
        exact inside
      · obtain ⟨found, inside, rfl⟩ := Except.map_eq_ok_iff.1 read
        cases node
        exact inside
      · cases read
        cases node

/-- A sequence or set keeps its members under an IMPLICIT tag. -/
theorem IsNode.retagged (node : IsNode tag members element)
    (native : element.nativeType? = some type) (written : element.toTlv = .ok tlv)
    (read : Element.ofTlv other = .ok element) (slot : UInt8) :
    Retagged slot type element (.contextSpecific slot true (.sequence members)) tlv other := by
  obtain ⟨tlvs, encoded, rfl⟩ := node.exists_tlvs written
  obtain ⟨length, children, same, inside⟩ := node.exists_children read
  have tagged : IsNode (.contextSpecific slot true) members
      (.contextSpecific slot true (.sequence members)) := .contextSpecific
  rw [same]
  cases node with
  | sequence =>
    cases native
    exact ⟨rfl, rfl, tagged.toTlv encoded, tagged.ofTlv length inside⟩
  | set =>
    cases native
    exact ⟨rfl, rfl, tagged.toTlv encoded, tagged.ofTlv length inside⟩
  | contextSpecific => cases native

/-- Any other element keeps its contents octets under an IMPLICIT tag. -/
theorem Sound.exists_retagged (sound : Sound element tlv) (plain : element.plainType? = some type)
    (primitive : type.isStructured = false) (slot : UInt8) :
    ∃ data,
      Retagged slot type element (.contextSpecific slot false (.octetString data)) tlv tlv := by
  obtain ⟨data, rfl⟩ := toTlv_plainType plain sound.written
  have untagged : untag type (.contextSpecific slot false (.octetString data)) =
      ofTlv (leafOf type data) := if_neg (by rw [primitive]; decide)
  refine ⟨data, implicit_of_leaf plain sound.written slot, untagged.trans sound.read, ?_, ?_⟩
  · rw [primitive]
    rfl
  · rw [primitive]
    rfl

/-- **An element that reads back is retagged in what it is written as and in what it is read from.**
The value that is read has the form of the type. -/
theorem exists_retagged (native : element.nativeType? = some type)
    (readsBack : element.ReadsBack) (slot : UInt8) :
    ∃ inner tlv other, Retagged slot type element (.contextSpecific slot type.isStructured inner)
        tlv other ∧ element.toTlv = .ok tlv ∧ Tlv.Spelled tlv.write other ∧
      other.tag.isConstructed = type.isStructured := by
  rcases nativeType?_cases native with ⟨structured, tag, members, node⟩ | ⟨primitive, plain⟩
  · obtain ⟨tlv, other, written, spelled, read⟩ := readsBack_iff.1 readsBack
    have constructed : other.tag.isConstructed = true := by
      obtain ⟨length, children, same, -⟩ := node.exists_children read
      rw [same] at spelled
      exact spelled.of_node.1
    have retagged := node.retagged native written read slot
    rw [structured]
    exact ⟨_, tlv, other, retagged, written, spelled, constructed⟩
  · obtain ⟨tlv, sound⟩ := readsBack.sound_of_plain plain
    obtain ⟨data, retagged⟩ := sound.exists_retagged plain primitive slot
    have form : tlv.tag.isConstructed = false := by
      obtain ⟨data, rfl⟩ := toTlv_plainType plain sound.written
      exact (legible_plainType plain).2
    rw [primitive]
    exact ⟨_, tlv, tlv, retagged, sound.written, sound.spelled, form⟩

/-! ### Tags taken off -/

/-- A tagged element is not read as a type of the other form. -/
theorem untag_eq_error (differs : type.isStructured ≠ constructed) :
    untag type (.contextSpecific slot constructed inner) =
      .error (.tagging slot (if constructed then .constructedAsPrimitive
        else .primitiveAsConstructed)) := by
  cases constructed with
  | true =>
    cases type with
    | sequence | set => exact absurd rfl differs
    | _ => rfl
  | false =>
    have structured : type.isStructured = true := Bool.not_eq_false _ ▸ differs
    exact if_pos structured

/-! ### Octets -/

/-- The octets of an element with the identifier octet of an IMPLICIT tag in place of the first one:
the class and the slot, and the bit of a constructed value for a sequence or set only. -/
def retaggedOctets (slot : UInt8) (type : UniversalType) (octets : Octets) : Octets :=
  octets.set 0 (0x80 + slot + if type.isStructured then 0x20 else 0)

/-- **An IMPLICIT tag replaces the identifier octet of an element that reads back, and taking it off
gives the element back.** The new octets are read as the tagged element, and that is read as a type
of its own form only. -/
theorem untag_implicit (low : slot ≤ 30) (native : element.nativeType? = some type)
    (written : element.toOctets = .ok octets) (read : ofOctets octets = .ok element) :
    ∃ tagged inner, implicit slot element = .ok tagged ∧
      tagged = .contextSpecific slot type.isStructured inner ∧
      tagged.toOctets = .ok (retaggedOctets slot type octets) ∧
      ofOctets (retaggedOctets slot type octets) = .ok tagged ∧
      untag type tagged = .ok element ∧
      ∀ wanted : UniversalType, wanted.isStructured ≠ type.isStructured →
        untag wanted tagged = .error (.tagging slot (if type.isStructured then
          .constructedAsPrimitive else .primitiveAsConstructed)) := by
  have readsBack : element.ReadsBack := Except.bind_eq_ok_iff.2 ⟨octets, written, read⟩
  obtain ⟨inner, tlv, other, retagged, encoded, spelled, form⟩ :=
    exists_retagged native readsBack slot
  obtain rfl : tlv.write = octets := by
    rw [toOctets, encoded] at written
    exact Except.ok.inj written
  have legible : (Tag.contextSpecific slot type.isStructured).Legible :=
    Tag.legible_contextSpecific (UInt8.lt_of_le_of_lt low (by decide)) _
  have replaced : retaggedOctets slot type tlv.write =
      tlv.write.set 0 (Tag.contextSpecific slot type.isStructured).toOctet := by
    rw [retaggedOctets, Tag.toOctet_contextSpecific low]
  rw [replaced]
  refine ⟨_, inner, retagged.put, rfl, ?_, ?_, retagged.taken, fun _ => untag_eq_error⟩
  · rw [toOctets, retagged.written, ← Tlv.write_withTag]
    rfl
  · exact ofOctets_eq_ok_iff.2 ⟨_, spelled.withTag legible form.symm, retagged.read⟩

/-- A sequence of an integer inside an EXPLICIT tag and an empty set. -/
def nestedElement : Element :=
  .sequence [explicit 0 (.integer (-129)), .set []]

/-- The octets of the nested element. -/
def nestedOctets : Octets :=
  [0x30, 0x08, 0xa0, 0x04, 0x02, 0x02, 0xff, 0x7f, 0x31, 0x00]

/-- Under the largest slot the nested element has `be` for its first octet. -/
theorem untag_implicit_nested :
    (30 : UInt8) ≤ 30 ∧ nestedElement.nativeType? = some .sequence ∧
      nestedElement.toOctets = .ok nestedOctets ∧ ofOctets nestedOctets = .ok nestedElement ∧
      ∃ tagged, implicit 30 nestedElement = .ok tagged ∧
        tagged.toOctets =
          .ok [0xbe, 0x08, 0xa0, 0x04, 0x02, 0x02, 0xff, 0x7f, 0x31, 0x00] ∧
        untag .sequence tagged = .ok nestedElement ∧
        untag .integer tagged = .error (.tagging 30 .constructedAsPrimitive) := by
  have low : (30 : UInt8) ≤ 30 := by decide
  have tree : Tlv.readAll nestedOctets = .ok [.node (.plain 0x30) 8
      [.node (.contextSpecific 0 true) 4 [.leaf (.plain 0x02) [0xff, 0x7f]],
        .node (.plain 0x31) 0 []]] := by
    decide +kernel
  have written : nestedElement.toOctets = .ok nestedOctets := by decide +kernel
  have read : ofOctets nestedOctets = .ok nestedElement := by
    rw [ofOctets, tree]
    rfl
  obtain ⟨tagged, _, put, -, octets, -, taken, refused⟩ :=
    untag_implicit low rfl written read
  exact ⟨low, rfl, written, read, tagged, put, octets, taken, refused .integer (by decide)⟩

end Element

end X509
