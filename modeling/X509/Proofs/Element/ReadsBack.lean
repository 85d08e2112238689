/-
**Elements that their octets read back as.**

An element is steady when its octets, and those of every element in it, read back as that element.
Every value is then written with the length that it has: a leaf always is, a node by induction on
what is inside. So the encoded value of a steady element spells itself, which is what it takes to
put the element inside another one.

* `Element.WasRead` — the elements that are read from some encoded value.
* `Element.Occurs`, `Element.Steady` — the elements in an element, and what is asked of them.
* `Element.Sound` — an element and an encoded value that stand for each other, octets included.
* `Element.Steady.sound` — steady elements are sound.
-/

import X509.Element.Tagging
import X509.Proofs.Tlv.Writing

namespace X509.Element

/-! ### Elements in elements -/

/-- The elements directly inside an element. -/
def inside : Element → List Element
  | .sequence members | .set members => members
  | .contextSpecific _ _ inner => [inner]
  | _ => []

theorem sizeOf_lt_of_mem_inside {element member : Element} (direct : member ∈ element.inside) :
    sizeOf member < sizeOf element := by
  cases element with
  | sequence members =>
    have smaller : sizeOf member < sizeOf members := List.sizeOf_lt_of_mem direct
    simp only [sequence.sizeOf_spec]
    omega
  | set members =>
    have smaller : sizeOf member < sizeOf members := List.sizeOf_lt_of_mem direct
    simp only [set.sizeOf_spec]
    omega
  | contextSpecific slot constructed inner =>
    obtain rfl := List.mem_singleton.1 direct
    simp only [contextSpecific.sizeOf_spec]
    omega
  | _ => cases direct

/-- An element occurs in itself, and in whatever it stands inside of. -/
inductive Occurs (one : Element) : Element → Prop where
  | here : Occurs one one
  | inside {whole member : Element} (direct : member ∈ whole.inside) (deeper : Occurs one member) :
      Occurs one whole

/-- **An element that its octets read back as.** -/
def ReadsBack (element : Element) : Prop :=
  element.toOctets >>= ofOctets = .ok element

/-- **An element in which every element reads back.** -/
def Steady (element : Element) : Prop :=
  ∀ one, Occurs one element → one.ReadsBack

theorem Steady.readsBack {element : Element} (steady : element.Steady) : element.ReadsBack :=
  steady element .here

theorem Steady.of_inside {element member : Element} (steady : element.Steady)
    (direct : member ∈ element.inside) : member.Steady :=
  fun one occurs => steady one (.inside direct occurs)

theorem steady_of_inside {element : Element} (readsBack : element.ReadsBack)
    (direct : ∀ member ∈ element.inside, member.Steady) : element.Steady := by
  intro one occurs
  cases occurs with
  | here => exact readsBack
  | inside member deeper => exact direct _ member one deeper

theorem ReadsBack.read {element : Element} {octets : Octets} (readsBack : element.ReadsBack)
    (written : element.toOctets = .ok octets) : ofOctets octets = .ok element := by
  rwa [ReadsBack, written] at readsBack

/-! ### Lists of elements -/

theorem toTlvs_eq_mapM (elements : List Element) : toTlvs elements = elements.mapM toTlv := by
  induction elements with
  | nil => rfl
  | cons element elements ih =>
    rw [toTlvs, List.mapM_cons, ih]

theorem ofTlvs_eq_mapM (tlvs : List Tlv) : ofTlvs tlvs = tlvs.mapM ofTlv := by
  induction tlvs with
  | nil => rfl
  | cons tlv tlvs ih =>
    rw [ofTlvs, List.mapM_cons, ih]

theorem toTlvs_eq_ok_iff {elements : List Element} {tlvs : List Tlv} :
    toTlvs elements = .ok tlvs ↔
      List.Forall₂ (fun element tlv => toTlv element = .ok tlv) elements tlvs := by
  rw [toTlvs_eq_mapM, Except.mapM_eq_ok_iff]

theorem ofTlvs_eq_ok_iff {tlvs : List Tlv} {elements : List Element} :
    ofTlvs tlvs = .ok elements ↔
      List.Forall₂ (fun tlv element => ofTlv tlv = .ok element) tlvs elements := by
  rw [ofTlvs_eq_mapM, Except.mapM_eq_ok_iff]

/-! ### Octets -/

/-- **Octets are read as an element when they spell one value that is.** -/
theorem ofOctets_eq_ok_iff {octets : Octets} {element : Element} :
    ofOctets octets = .ok element ↔
      ∃ tlv, Tlv.Spelled octets tlv ∧ ofTlv tlv = .ok element := by
  rw [ofOctets, Except.bind_eq_ok_iff]
  constructor
  · rintro ⟨tlvs, read, single⟩
    rw [Except.mapError_eq_ok_iff, Tlv.readAll_eq_ok_iff] at read
    split at single
    · next tlv =>
      cases read with
      | cons head tail =>
        cases tail
        rw [List.append_nil]
        exact ⟨tlv, head, single⟩
    · cases single
  · rintro ⟨tlv, spelled, read⟩
    refine ⟨[tlv], ?_, read⟩
    rw [Except.mapError_eq_ok_iff, Tlv.readAll_eq_ok_iff]
    exact .single spelled

/-- An element reads back through one encoded value, which might not be the one that was written. -/
theorem readsBack_iff {element : Element} :
    element.ReadsBack ↔
      ∃ tlv other, element.toTlv = .ok tlv ∧ Tlv.Spelled tlv.write other ∧
        ofTlv other = .ok element := by
  rw [ReadsBack, Except.bind_eq_ok_iff]
  constructor
  · rintro ⟨octets, written, read⟩
    obtain ⟨tlv, encoded, rfl⟩ := Except.map_eq_ok_iff.1 written
    obtain ⟨other, spelled, read⟩ := ofOctets_eq_ok_iff.1 read
    exact ⟨tlv, other, encoded, spelled, read⟩
  · rintro ⟨tlv, other, encoded, spelled, read⟩
    exact ⟨tlv.write, Except.map_eq_ok_iff.2 ⟨tlv, encoded, rfl⟩,
      ofOctets_eq_ok_iff.2 ⟨other, spelled, read⟩⟩

/-! ### Sound elements -/

/-- **An element and an encoded value that stand for each other,** the octets of the value
included. -/
structure Sound (element : Element) (tlv : Tlv) : Prop where
  written : element.toTlv = .ok tlv
  spelled : tlv.SpellsItself
  read : ofTlv tlv = .ok element

theorem Sound.readsBack {element : Element} {tlv : Tlv} (sound : Sound element tlv) :
    element.ReadsBack :=
  readsBack_iff.2 ⟨tlv, tlv, sound.written, sound.spelled, sound.read⟩

/-- An element that reads back is sound as soon as its encoded value spells itself. -/
theorem ReadsBack.sound {element : Element} {tlv : Tlv} (readsBack : element.ReadsBack)
    (written : element.toTlv = .ok tlv)
    (spelled : ∀ other, Tlv.Spelled tlv.write other → ofTlv other = .ok element →
      tlv.SpellsItself) : Sound element tlv := by
  obtain ⟨tlv', other, written', spelled', read⟩ := readsBack_iff.1 readsBack
  obtain rfl := Except.ok.inj (written'.symm.trans written)
  have itself := spelled other spelled' read
  obtain rfl := itself.unique spelled'
  exact ⟨written, itself, read⟩

/-! ### Leaves -/

/-- The universal type of an element that is written as plain data. -/
def plainType? : Element → Option UniversalType
  | .boolean _ => some .boolean
  | .integer _ => some .integer
  | .enumerated _ => some .enumerated
  | .bitString _ => some .bitString
  | .octetString _ => some .octetString
  | .null => some .null
  | .objectIdentifier _ => some .objectIdentifier
  | .utf8String _ => some .utf8String
  | .printableString _ => some .printableString
  | .ia5String _ => some .ia5String
  | .bmpString _ => some .bmpString
  | .utcTime _ => some .utcTime
  | .generalizedTime _ => some .generalizedTime
  | .sequence _ | .set _ | .contextSpecific .. | .unread _ => none

theorem legible_plainType {element : Element} {type : UniversalType}
    (plain : element.plainType? = some type) :
    (Tag.universal type).Legible ∧ (Tag.universal type).isConstructed = false := by
  cases element <;> cases plain <;> exact ⟨⟨by decide, by decide⟩, by decide⟩

theorem toTlv_plainType {element : Element} {type : UniversalType} {tlv : Tlv}
    (plain : element.plainType? = some type) (written : element.toTlv = .ok tlv) :
    ∃ data, tlv = leafOf type data := by
  cases element with
  | objectIdentifier oid =>
    cases plain
    obtain ⟨data, -, rfl⟩ := Except.map_eq_ok_iff.1 written
    exact ⟨data, rfl⟩
  | bmpString text =>
    cases plain
    obtain ⟨data, -, rfl⟩ := Except.map_eq_ok_iff.1 written
    exact ⟨data, rfl⟩
  | sequence _ => cases plain
  | set _ => cases plain
  | contextSpecific _ _ _ => cases plain
  | unread _ => cases plain
  | _ =>
    cases plain
    exact ⟨_, (Except.ok.inj written).symm⟩

theorem asciiText_eq_ok_iff {fault : ElementError} {data : Octets} {text : String} :
    asciiText fault data = .ok text ↔ data.isAscii = true ∧ data.toText? = some text := by
  unfold asciiText
  by_cases ascii : data.isAscii = true
  · rw [if_pos ascii]
    cases data.toText? with
    | none => exact ⟨nofun, nofun⟩
    | some found =>
      exact ⟨fun same => ⟨ascii, congrArg some (Except.ok.inj same)⟩,
        fun same => congrArg Except.ok (Option.some.inj same.2)⟩
  · rw [if_neg ascii]
    exact ⟨nofun, fun both => absurd both.1 ascii⟩

theorem ReadsBack.sound_of_plain {element : Element} {type : UniversalType}
    (readsBack : element.ReadsBack) (plain : element.plainType? = some type) :
    ∃ tlv, Sound element tlv := by
  obtain ⟨tlv, other, written, -, -⟩ := readsBack_iff.1 readsBack
  obtain ⟨data, rfl⟩ := toTlv_plainType plain written
  obtain ⟨legible, primitive⟩ := legible_plainType plain
  refine ⟨_, readsBack.sound written fun other spelled _ => ?_⟩
  exact Tlv.spellsItself_leaf_iff.2
    ⟨legible, primitive, Tlv.length_lt_of_spelled_write rfl spelled⟩

/-! ### What values are read as -/

/-- Plain data is read as an element of a universal type, or kept. -/
theorem ofData_cases {type : UniversalType} {tag : Tag} {data : Octets} {element : Element}
    (read : ofData type tag data = .ok element) :
    (∃ type, element.plainType? = some type) ∨ element = .unread (.leaf tag data) := by
  unfold ofData at read
  cases type with
  | boolean =>
    dsimp only at read
    split at read <;> cases read
    · exact .inl ⟨_, rfl⟩
    · exact .inl ⟨_, rfl⟩
  | integer | enumerated | utf8String =>
    dsimp only at read
    split at read <;> cases read
    exact .inl ⟨_, rfl⟩
  | octetString | null =>
    cases read
    exact .inl ⟨_, rfl⟩
  | sequence | set => cases read
  | other number =>
    cases read
    exact .inr rfl
  | _ =>
    obtain ⟨_, -, rfl⟩ := Except.map_eq_ok_iff.1 read
    exact .inl ⟨_, rfl⟩

/-- What is kept is the value that was read. -/
theorem eq_of_ofTlv_eq_unread {tlv other : Tlv} (read : ofTlv tlv = .ok (.unread other)) :
    tlv = other := by
  unfold ofTlv at read
  split at read
  · cases read
  · cases read
  · rcases ofData_cases read with ⟨type, plain⟩ | kept
    · cases plain
    · cases kept
      rfl
  · cases read
  · obtain ⟨_, -, differs⟩ := Except.map_eq_ok_iff.1 read
    cases differs
  · split at read
    · obtain ⟨_, -, differs⟩ := Except.map_eq_ok_iff.1 read
      cases differs
    · obtain ⟨_, -, differs⟩ := Except.map_eq_ok_iff.1 read
      cases differs
    · cases read
      rfl

/-- **A context-specific element has the tag of the value it was read from,** and holds members or
octets by the form of that tag. -/
theorem tag_of_ofTlv_eq_contextSpecific {tlv : Tlv} {slot : UInt8} {constructed : Bool}
    {inner : Element} (read : ofTlv tlv = .ok (.contextSpecific slot constructed inner)) :
    tlv.tag = .contextSpecific slot constructed ∧
      ((constructed = true ∧ ∃ members, inner = .sequence members) ∨
        (constructed = false ∧ ∃ data, inner = .octetString data)) := by
  unfold ofTlv at read
  split at read
  · cases read
    exact ⟨rfl, .inr ⟨rfl, _, rfl⟩⟩
  · cases read
  · rcases ofData_cases read with ⟨type, plain⟩ | kept
    · cases plain
    · cases kept
  · cases read
    exact ⟨rfl, .inr ⟨rfl, _, rfl⟩⟩
  · obtain ⟨members, -, same⟩ := Except.map_eq_ok_iff.1 read
    cases same
    exact ⟨rfl, .inl ⟨rfl, members, rfl⟩⟩
  · split at read
    · obtain ⟨_, -, differs⟩ := Except.map_eq_ok_iff.1 read
      cases differs
    · obtain ⟨_, -, differs⟩ := Except.map_eq_ok_iff.1 read
      cases differs
    · cases read

/-- **An element that is read from some encoded value.** -/
def WasRead (element : Element) : Prop :=
  ∃ tlv, ofTlv tlv = .ok element

theorem wasRead_of_ofOctets {octets : Octets} {element : Element}
    (read : ofOctets octets = .ok element) : element.WasRead := by
  obtain ⟨tlv, -, read⟩ := ofOctets_eq_ok_iff.1 read
  exact ⟨tlv, read⟩

theorem ReadsBack.wasRead {element : Element} (readsBack : element.ReadsBack) :
    element.WasRead := by
  obtain ⟨_, tlv, _, _, read⟩ := readsBack_iff.1 readsBack
  exact ⟨tlv, read⟩

theorem WasRead.contextSpecific_cases {slot : UInt8} {constructed : Bool} {inner : Element}
    (wasRead : (contextSpecific slot constructed inner).WasRead) :
    (constructed = true ∧ ∃ members, inner = .sequence members) ∨
      (constructed = false ∧ ∃ data, inner = .octetString data) := by
  obtain ⟨tlv, read⟩ := wasRead
  exact (tag_of_ofTlv_eq_contextSpecific read).2

/-- Octets under a tag are sound when they read back. -/
theorem ReadsBack.sound_of_octets {slot : UInt8} {data : Octets}
    (readsBack : (contextSpecific slot false (.octetString data)).ReadsBack) :
    Sound (contextSpecific slot false (.octetString data))
      (.leaf (.contextSpecific slot false) data) := by
  refine readsBack.sound rfl fun other spelled read => ?_
  obtain ⟨identifier, low, -⟩ := spelled.identifier
  obtain ⟨slotted, -⟩ := tag_of_ofTlv_eq_contextSpecific read
  have legible : (Tag.contextSpecific slot false).Legible := ⟨identifier.symm.trans slotted, low⟩
  exact Tlv.spellsItself_leaf_iff.2
    ⟨legible, rfl, Tlv.length_lt_of_spelled_write rfl spelled⟩

/-- A value that is kept is sound when it reads back. -/
theorem ReadsBack.sound_of_unread {tlv : Tlv} (readsBack : (unread tlv).ReadsBack) :
    Sound (unread tlv) tlv := by
  refine readsBack.sound rfl fun other spelled read => ?_
  obtain rfl := eq_of_ofTlv_eq_unread read
  exact spelled

/-! ### Nodes -/

/-- Members that are sound spell themselves one after the other. -/
theorem forall_spellsItself {members : List Element} {tlvs : List Tlv}
    (sound : List.Forall₂ Sound members tlvs) : ∀ tlv ∈ tlvs, tlv.SpellsItself :=
  sound.forall_mem fun _ _ sound => sound.spelled

/-- The element of a node with a tag and members. -/
inductive IsNode : Tag → List Element → Element → Prop where
  | sequence {members : List Element} : IsNode (.universal .sequence) members (.sequence members)
  | set {members : List Element} : IsNode (.universal .set) members (.set members)
  | contextSpecific {slot : UInt8} {members : List Element} :
      IsNode (.contextSpecific slot true) members (.contextSpecific slot true (.sequence members))

namespace IsNode

variable {tag : Tag} {members : List Element} {tlvs : List Tlv} {element : Element}

theorem toTlv (node : IsNode tag members element)
    (written : toTlvs members = .ok tlvs) : element.toTlv = .ok (.ofChildren tag tlvs) := by
  cases node <;> rw [Element.toTlv, written] <;> rfl

theorem ofTlv (node : IsNode tag members element) (length : Nat)
    (read : ofTlvs tlvs = .ok members) : Element.ofTlv (.node tag length tlvs) = .ok element := by
  have whole (f : List Element → Element) : (ofTlvs tlvs).map f = .ok (f members) := by
    rw [read]
    rfl
  cases node with
  | sequence => exact whole .sequence
  | set => exact whole .set
  | contextSpecific => exact whole fun members => .contextSpecific _ true (.sequence members)

theorem isConstructed (node : IsNode tag members element) : tag.isConstructed = true := by
  cases node <;> rfl

/-- The tag of a node is legible when its octets spell the value that the node is read from. -/
theorem legible {tlv other : Tlv} (node : IsNode tag members element) (same : tlv.tag = tag)
    (spelled : Tlv.Spelled tlv.write other) (read : Element.ofTlv other = .ok element) :
    tag.Legible := by
  cases node with
  | sequence => exact ⟨by decide, by decide⟩
  | set => exact ⟨by decide, by decide⟩
  | contextSpecific =>
    rw [Tlv.write_eq] at spelled
    obtain ⟨identifier, low, -⟩ := spelled.identifier
    obtain ⟨slotted, -⟩ := tag_of_ofTlv_eq_contextSpecific read
    rw [same] at identifier low
    exact ⟨identifier.symm.trans slotted, low⟩

/-- **Sound members make a sound node,** if its tag and its length can be written. -/
theorem sound (node : IsNode tag members element) (inner : List.Forall₂ Sound members tlvs)
    (legible : tag.Legible) (fits : Tlv.encodedLengthAll tlvs < Length.bound) :
    Sound element (.ofChildren tag tlvs) where
  written := node.toTlv (toTlvs_eq_ok_iff.2 (inner.imp fun _ _ sound => sound.written))
  spelled := (Tlv.spellsItself_ofChildren_iff (forall_spellsItself inner)).2
    ⟨legible, node.isConstructed, fits⟩
  read := node.ofTlv _ (ofTlvs_eq_ok_iff.2 (inner.flip.imp fun _ _ sound => sound.read))

/-- A node that reads back is sound if its members are. -/
theorem sound_of_readsBack (node : IsNode tag members element)
    (inner : List.Forall₂ Sound members tlvs) (readsBack : element.ReadsBack) :
    Sound element (.ofChildren tag tlvs) := by
  have written := node.toTlv (toTlvs_eq_ok_iff.2 (inner.imp fun _ _ sound => sound.written))
  have spelled := forall_spellsItself inner
  refine readsBack.sound written fun other spelling read => ?_
  have announced : (Tlv.ofChildren tag tlvs).length = (Tlv.ofChildren tag tlvs).contents.length :=
    (Tlv.length_writeAll spelled).symm
  exact (Tlv.spellsItself_ofChildren_iff spelled).2 ⟨node.legible rfl spelling read,
    node.isConstructed, Tlv.length_lt_of_spelled_write announced spelling⟩

/-- The tag and the length of a sound node can be written. -/
theorem legible_and_fits {tlv : Tlv} (node : IsNode tag members element)
    (inner : List.Forall₂ Sound members tlvs) (sound : Sound element tlv) :
    tlv = .ofChildren tag tlvs ∧ tag.Legible ∧
      Tlv.encodedLengthAll tlvs < Length.bound := by
  have written := node.toTlv (toTlvs_eq_ok_iff.2 (inner.imp fun _ _ sound => sound.written))
  obtain rfl := Except.ok.inj (sound.written.symm.trans written)
  obtain ⟨legible, -, fits⟩ :=
    (Tlv.spellsItself_ofChildren_iff (forall_spellsItself inner)).1 sound.spelled
  exact ⟨rfl, legible, fits⟩

end IsNode

/-- **Steady elements are sound.** -/
theorem Steady.sound {element : Element} (steady : element.Steady) :
    ∃ tlv, Sound element tlv := by
  induction size : sizeOf element using Nat.strongRecOn generalizing element with
  | ind size ih =>
    subst size
    have readsBack := steady.readsBack
    have below {whole : Element} (smaller : sizeOf whole ≤ sizeOf element)
        (whole_steady : whole.Steady) {members : List Element} (direct : whole.inside = members) :
        ∃ tlvs, List.Forall₂ Sound members tlvs :=
      List.exists_forall₂ fun member inside => by
        rw [← direct] at inside
        have less := sizeOf_lt_of_mem_inside inside
        exact ih _ (Nat.lt_of_lt_of_le less smaller) (whole_steady.of_inside inside) rfl
    cases element with
    | sequence members =>
      obtain ⟨tlvs, inner⟩ := below (Nat.le_refl _) steady rfl
      exact ⟨_, IsNode.sequence.sound_of_readsBack inner readsBack⟩
    | set members =>
      obtain ⟨tlvs, inner⟩ := below (Nat.le_refl _) steady rfl
      exact ⟨_, IsNode.set.sound_of_readsBack inner readsBack⟩
    | contextSpecific slot constructed inner =>
      have direct : inner ∈ (contextSpecific slot constructed inner).inside :=
        List.mem_singleton_self inner
      obtain ⟨rfl, members, rfl⟩ | ⟨rfl, data, rfl⟩ := readsBack.wasRead.contextSpecific_cases
      · have smaller := Nat.le_of_lt (sizeOf_lt_of_mem_inside direct)
        obtain ⟨tlvs, inner⟩ := below smaller (steady.of_inside direct) rfl
        exact ⟨_, IsNode.contextSpecific.sound_of_readsBack inner readsBack⟩
      · exact ⟨_, readsBack.sound_of_octets⟩
    | unread tlv => exact ⟨tlv, readsBack.sound_of_unread⟩
    | _ => exact readsBack.sound_of_plain rfl

theorem Steady.sound_of_written {element : Element} {tlv : Tlv} (steady : element.Steady)
    (written : element.toTlv = .ok tlv) : Sound element tlv := by
  obtain ⟨other, sound⟩ := steady.sound
  obtain rfl := Except.ok.inj (sound.written.symm.trans written)
  exact sound

/-! ### Elements in place of others -/

/-- **An element that may take the place of another:** both are sound, and it is encoded in no more
octets. -/
def Replaces (other element : Element) : Prop :=
  ∃ tlv tlv', Sound element tlv ∧ Sound other tlv' ∧ tlv'.encodedLength ≤ tlv.encodedLength

theorem Steady.replaces_self {element : Element} (steady : element.Steady) :
    element.Replaces element := by
  obtain ⟨tlv, sound⟩ := steady.sound
  exact ⟨tlv, tlv, sound, sound, Nat.le_refl _⟩

/-- What takes the place of an element has octets and reads back from them. -/
theorem Replaces.exists_octets {element other : Element} (replaces : other.Replaces element) :
    ∃ octets, other.toOctets = .ok octets ∧ ofOctets octets = .ok other := by
  obtain ⟨_, _, -, sound, -⟩ := replaces
  exact Except.bind_eq_ok_iff.1 sound.readsBack

/-- A leaf takes the place of another one with at least as many octets. -/
theorem Sound.replaces_of_leaf {element other : Element} {tag tag' : Tag} {data data' : Octets}
    (sound : Sound element (.leaf tag data)) (written : other.toTlv = .ok (.leaf tag' data'))
    (read : ofTlv (.leaf tag' data') = .ok other) (legible : tag'.Legible)
    (primitive : tag'.isConstructed = false) (le : data'.length ≤ data.length) :
    other.Replaces element := by
  obtain ⟨-, -, fits⟩ := Tlv.spellsItself_leaf_iff.1 sound.spelled
  have spelled := Tlv.spellsItself_leaf_iff.2
    ⟨legible, primitive, Nat.lt_of_le_of_lt le fits⟩
  exact ⟨_, _, sound, ⟨written, spelled, read⟩, Tlv.encodedLength_mono le⟩

/-- Members that take the place of others, in the encoded values. -/
theorem exists_sound_of_replaces {members others : List Element}
    (each : List.Forall₂ Replaces others members) :
    ∃ tlvs tlvs', List.Forall₂ Sound members tlvs ∧ List.Forall₂ Sound others tlvs' ∧
      Tlv.encodedLengthAll tlvs' ≤ Tlv.encodedLengthAll tlvs := by
  induction each with
  | nil => exact ⟨[], [], .nil, .nil, Nat.le_refl 0⟩
  | cons head _ ih =>
    obtain ⟨tlv, tlv', sound, sound', le⟩ := head
    obtain ⟨tlvs, tlvs', inner, inner', less⟩ := ih
    exact ⟨tlv :: tlvs, tlv' :: tlvs', .cons sound inner, .cons sound' inner',
      Nat.add_le_add le less⟩

/-- **A node takes the place of another one with the same tag if each of its members does.** -/
theorem IsNode.replaces {tag : Tag} {members others : List Element} {element other : Element}
    {tlv : Tlv} (node : IsNode tag members element) (node' : IsNode tag others other)
    (sound : Sound element tlv) (each : List.Forall₂ Replaces others members) :
    other.Replaces element := by
  obtain ⟨tlvs, tlvs', inner, inner', le⟩ := exists_sound_of_replaces each
  obtain ⟨rfl, legible, fits⟩ := node.legible_and_fits inner sound
  have sound' := node'.sound inner' legible (Nat.lt_of_le_of_lt le fits)
  exact ⟨_, _, sound, sound', Tlv.encodedLength_mono le⟩

end X509.Element
