/-
**Whatever was read is written again, and then stays the same.**

Reading is lenient: lengths, integers and object identifiers may be padded, a null value may have
contents, a time may lack digits. Writing has one form for each element. So the octets of an element
are not those it was read from, but from then on they are read as that element. Two kinds of
elements are left out: times in the long form whose year has no four digits, and values that were
kept and announce more contents than are written for them.

* `Element.Regular` — the elements without those two.
* `Element.ofData_written` — plain data, one universal type at a time.
* `Element.exists_coded` — encoded values, by induction on the octets they are spelled with.
* `Element.ofOctets_toOctets_of_regular` — octets of one element and of elements in a row.
-/

import X509.Proofs.Element.Coded
import X509.Proofs.Tlv.Shortest
import X509.Proofs.Value.DateTime
import X509.Proofs.Value.Integer
import X509.Proofs.Value.ObjectIdentifier

namespace X509

/-! ### Texts in two octets a character -/

namespace BmpText

theorem charsOctets_of_charsAt {position : Nat} {octets : Octets} {text : List Char}
    (even : octets.length % 2 = 0) (read : charsAt position octets = .ok text) :
    charsOctets text = .ok octets := by
  match octets, even with
  | [], _ =>
    cases read
    rfl
  | high :: low :: rest, even =>
    rw [List.length_cons, List.length_cons] at even
    rw [charsAt] at read
    split at read
    · next valid =>
      obtain ⟨others, found, rfl⟩ := Except.map_eq_ok_iff.1 read
      have tail := charsOctets_of_charsAt (by omega) found
      have upper := high.toNat_lt
      have lower := low.toNat_lt
      have whole : (Char.ofNat (high.toNat * 256 + low.toNat)).toNat =
          high.toNat * 256 + low.toNat := by
        rw [Char.ofNat, dif_pos valid]
        rfl
      have first : (high.toNat * 256 + low.toNat) / 256 = high.toNat := by omega
      have second : (high.toNat * 256 + low.toNat) % 256 = low.toNat := by omega
      rw [charsOctets, whole, if_pos (by omega), tail, first, second, UInt8.ofNat_toNat,
        UInt8.ofNat_toNat]
      rfl
    · cases read

/-- **A text is written in the octets it was read from.** -/
theorem toOctets_of_ofOctets {octets : Octets} {text : String} (read : ofOctets octets = .ok text) :
    toOctets text = .ok octets := by
  unfold ofOctets at read
  split at read
  · cases read
  · next even =>
    obtain ⟨characters, found, rfl⟩ := Except.map_eq_ok_iff.1 read
    rw [toOctets, String.toList_ofList]
    exact charsOctets_of_charsAt (by omega) found

end BmpText

/-! ### Twice as many octets -/

namespace Length

theorem size_pos (length : Nat) : 0 < size length := by
  unfold size
  split <;> omega

/-- Twice the length takes one octet more at most. -/
theorem size_double (length : Nat) : size (2 * length) ≤ size length + 1 := by
  unfold size leadingZeros maxOctets
  by_cases short : length < 0x80
  · rw [if_pos short]
    split
    · exact Nat.le_add_left 1 1
    · next long =>
      have bits : (2 * length).log2 < 8 := (Nat.log2_lt (by omega)).2 (by omega)
      omega
  · have bits : (2 * length).log2 = length.log2 + 1 := Nat.log2_two_mul (by omega)
    rw [if_neg short, if_neg (by omega), bits]
    omega

end Length

namespace Element

variable {element member : Element} {elements : List Element} {tlv : Tlv} {tlvs children : List Tlv}
  {octets data : Octets} {tag : Tag} {type : UniversalType} {length : Nat}

/-! ### Regular elements -/

/-- **An element in which every time of the long form has a year of four digits, and every value
that was kept is announced truly at every depth.** -/
structure Regular (element : Element) : Prop where
  years : ∀ time, Occurs (.generalizedTime time) element → 0 ≤ time.year ∧ time.year ≤ 9999
  announced : ∀ tlv, Occurs (.unread tlv) element → tlv.Announced

theorem regular_of_inside
    (years : ∀ time, element = .generalizedTime time → 0 ≤ time.year ∧ time.year ≤ 9999)
    (announced : ∀ tlv, element = .unread tlv → tlv.Announced)
    (direct : ∀ member ∈ element.inside, member.Regular) : element.Regular where
  years time occurs := by
    cases occurs with
    | here => exact years time rfl
    | inside member deeper => exact (direct _ member).years time deeper
  announced tlv occurs := by
    cases occurs with
    | here => exact announced tlv rfl
    | inside member deeper => exact (direct _ member).announced tlv deeper

theorem Regular.of_inside (regular : element.Regular) (direct : member ∈ element.inside) :
    member.Regular :=
  ⟨fun time occurs => regular.years time (.inside direct occurs),
    fun tlv occurs => regular.announced tlv (.inside direct occurs)⟩

/-! ### Plain data -/

/-- An element that is written as plain data and read back from them. -/
structure Plain (element : Element) (type : UniversalType) (data : Octets) : Prop where
  plain : element.plainType? = some type
  written : element.toTlv = .ok (leafOf type data)
  read : ofTlv (leafOf type data) = .ok element

theorem Plain.coded (plain : Plain element type data) : Coded element (leafOf type data) := by
  obtain ⟨legible, primitive⟩ := legible_plainType plain.plain
  exact .of_leaf plain.written plain.read legible primitive

theorem timeText_eq_ok_iff {fault : ElementError} {read? : List Char → Option DateTime}
    {time : DateTime} : timeText fault read? data = .ok time ↔
      ∃ text, data.toText? = some text ∧ read? text.toList = some time := by
  unfold timeText
  cases data.toText? with
  | none => exact ⟨nofun, nofun⟩
  | some text =>
    simp only [Option.some.injEq, exists_eq_left']
    cases read? text.toList with
    | none => exact ⟨nofun, nofun⟩
    | some found => rw [Except.ok.injEq, Option.some.injEq]

/-- A time is read from the octets of its text. -/
theorem timeText_ofText (fault : ElementError) (read? : List Char → Option DateTime)
    (text : List Char) :
    timeText fault read? (.ofText (String.ofList text)) =
      (read? text).elim (.error fault) .ok := by
  rw [timeText, Octets.toText?_ofText]
  simp only [String.toList_ofList]
  cases read? text <;> rfl

/-- A time of the short form is written in that form again. -/
theorem plain_utcTime {time : DateTime}
    (read : timeText .invalidUtcTime DateTime.ofShortText? data = .ok time) :
    ∃ data', Plain (.utcTime time) .utcTime data' ∧ data'.length ≤ 15 ∧ 7 ≤ data.length := by
  obtain ⟨text, spelling, found⟩ := timeText_eq_ok_iff.1 read
  have within := DateTime.year_of_ofShortText? found
  have again : timeText .invalidUtcTime DateTime.ofShortText?
      (.ofText (String.ofList time.shortText)) = .ok time := by
    rw [timeText_ofText, DateTime.ofShortText?_shortText within]
    rfl
  have size := time.length_ofText_shortText
  have least := DateTime.length_of_ofShortText? found
  have octets := Octets.length_toList_le text
  rw [Octets.ofText_of_toText? spelling] at octets
  refine ⟨_, ⟨rfl, rfl, ?_⟩, Nat.le_trans (Nat.le_of_eq size) (by decide),
    Nat.le_trans least octets⟩
  exact Except.map_eq_ok_iff.2 ⟨time, again, rfl⟩

/-- A time of the long form is written in that form again, if its year has four digits. -/
theorem plain_generalizedTime {time : DateTime} (within : 0 ≤ time.year ∧ time.year ≤ 9999)
    (read : timeText .invalidGeneralizedTime DateTime.ofLongText? data = .ok time) :
    ∃ data', Plain (.generalizedTime time) .generalizedTime data' ∧ data'.length ≤ 15 ∧
      7 ≤ data.length := by
  obtain ⟨text, spelling, found⟩ := timeText_eq_ok_iff.1 read
  have again : timeText .invalidGeneralizedTime DateTime.ofLongText?
      (.ofText (String.ofList time.longText)) = .ok time := by
    rw [timeText_ofText, DateTime.ofLongText?_longText within]
    rfl
  have size := DateTime.length_ofText_longText within
  have least := DateTime.length_of_ofLongText? found
  have octets := Octets.length_toList_le text
  rw [Octets.ofText_of_toText? spelling] at octets
  refine ⟨_, ⟨rfl, rfl, ?_⟩, Nat.le_of_eq size, Nat.le_trans least octets⟩
  exact Except.map_eq_ok_iff.2 ⟨time, again, rfl⟩

/-- The octets of an integer are read as an integer or as a number that enumerates. -/
theorem ofTlv_toOctets (value : Int) :
    ofTlv (leafOf .integer (Integer.toOctets value)) = .ok (.integer value) ∧
      ofTlv (leafOf .enumerated (Integer.toOctets value)) = .ok (.enumerated value) := by
  have filled : ¬ (Integer.toOctets value).isEmpty = true := fun none =>
    Integer.toOctets_ne_nil value (List.isEmpty_iff.1 none)
  have again := Integer.ofOctets_toOctets value
  constructor
  · exact (if_neg filled).trans (by rw [again])
  · exact (if_neg filled).trans (by rw [again])

/-- An object identifier that was read is written in no more octets. -/
theorem exists_plain_objectIdentifier {oid : ObjectIdentifier}
    (read : ObjectIdentifier.ofOctets data = .ok oid) :
    ∃ shortest, Plain (.objectIdentifier oid) .objectIdentifier shortest ∧
      shortest.length ≤ data.length := by
  obtain ⟨shortest, written, again, le⟩ := ObjectIdentifier.exists_toOctets_of_ofOctets read
  refine ⟨shortest, ⟨rfl, ?_, ?_⟩, le⟩
  · rw [toTlv, written]
    rfl
  · exact Except.map_eq_ok_iff.2 ⟨oid, Except.mapError_eq_ok_iff.2 again, rfl⟩

/-- An ASCII text is written as the octets it was read from. -/
theorem ofText_of_asciiText {fault : ElementError} {text : String}
    (read : asciiText fault data = .ok text) : Octets.ofText text = data :=
  Octets.ofText_of_toText? (asciiText_eq_ok_iff.1 read).2

/-- **What is read from plain data is kept, or written as plain data that are no longer, or are
those of a time.** A time has fifteen octets at most, and is read from seven at least. -/
theorem ofData_written (read : ofData type tag data = .ok element)
    (years : ∀ time, element = .generalizedTime time → 0 ≤ time.year ∧ time.year ≤ 9999) :
    element = .unread (.leaf tag data) ∨
      ∃ type' data', Plain element type' data' ∧
        (data'.length ≤ data.length ∨ (data'.length ≤ 15 ∧ 7 ≤ data.length)) := by
  unfold ofData at read
  cases type with
  | boolean =>
    dsimp only at read
    split at read
    · cases read
      exact .inr ⟨.boolean, [0x00], ⟨rfl, rfl, rfl⟩, .inl (Nat.le_refl 1)⟩
    · cases read
      exact .inr ⟨.boolean, [0xff], ⟨rfl, rfl, rfl⟩, .inl (Nat.le_refl 1)⟩
    · cases read
  | integer =>
    dsimp only at read
    split at read
    · cases read
    · next filled =>
      cases read
      have some : data ≠ [] := fun none => filled (List.isEmpty_iff.2 none)
      exact .inr ⟨.integer, _, ⟨rfl, rfl, (ofTlv_toOctets _).1⟩,
        .inl (Integer.length_toOctets_ofOctets_le some)⟩
  | enumerated =>
    dsimp only at read
    split at read
    · cases read
    · next filled =>
      cases read
      have some : data ≠ [] := fun none => filled (List.isEmpty_iff.2 none)
      exact .inr ⟨.enumerated, _, ⟨rfl, rfl, (ofTlv_toOctets _).2⟩,
        .inl (Integer.length_toOctets_ofOctets_le some)⟩
  | bitString =>
    obtain ⟨bits, found, rfl⟩ := Except.map_eq_ok_iff.1 read
    have same := BitString.toOctets_of_ofOctets (Except.mapError_eq_ok_iff.1 found)
    refine .inr ⟨.bitString, data, ⟨rfl, ?_, read⟩, .inl (Nat.le_refl _)⟩
    rw [toTlv, same]
  | octetString =>
    cases read
    exact .inr ⟨.octetString, data, ⟨rfl, rfl, rfl⟩, .inl (Nat.le_refl _)⟩
  | null =>
    cases read
    exact .inr ⟨.null, [], ⟨rfl, rfl, rfl⟩, .inl (Nat.zero_le _)⟩
  | objectIdentifier =>
    obtain ⟨oid, found, rfl⟩ := Except.map_eq_ok_iff.1 read
    obtain ⟨shortest, plain, le⟩ :=
      exists_plain_objectIdentifier (Except.mapError_eq_ok_iff.1 found)
    exact .inr ⟨.objectIdentifier, shortest, plain, .inl le⟩
  | utf8String =>
    have whole := read
    dsimp only at read
    split at read
    · next text spelling =>
      cases read
      refine .inr ⟨.utf8String, data, ⟨rfl, ?_, whole⟩, .inl (Nat.le_refl _)⟩
      rw [toTlv, Octets.ofText_of_toText? spelling]
    · cases read
  | printableString =>
    obtain ⟨text, found, rfl⟩ := Except.map_eq_ok_iff.1 read
    refine .inr ⟨.printableString, data, ⟨rfl, ?_, read⟩, .inl (Nat.le_refl _)⟩
    rw [toTlv, ofText_of_asciiText found]
  | ia5String =>
    obtain ⟨text, found, rfl⟩ := Except.map_eq_ok_iff.1 read
    refine .inr ⟨.ia5String, data, ⟨rfl, ?_, read⟩, .inl (Nat.le_refl _)⟩
    rw [toTlv, ofText_of_asciiText found]
  | sequence | set => cases read
  | utcTime =>
    obtain ⟨time, found, rfl⟩ := Except.map_eq_ok_iff.1 read
    obtain ⟨data', plain, few⟩ := plain_utcTime found
    exact .inr ⟨.utcTime, data', plain, .inr few⟩
  | generalizedTime =>
    obtain ⟨time, found, rfl⟩ := Except.map_eq_ok_iff.1 read
    obtain ⟨data', plain, few⟩ := plain_generalizedTime (years time rfl) found
    exact .inr ⟨.generalizedTime, data', plain, .inr few⟩
  | bmpString =>
    obtain ⟨text, found, rfl⟩ := Except.map_eq_ok_iff.1 read
    have same := BmpText.toOctets_of_ofOctets (Except.mapError_eq_ok_iff.1 found)
    refine .inr ⟨.bmpString, data, ⟨rfl, ?_, read⟩, .inl (Nat.le_refl _)⟩
    rw [toTlv, same]
    rfl
  | other number =>
    cases read
    exact .inl rfl

/-! ### Encoded values -/

/-- A node is kept as it is, or read as the element of its members. -/
theorem node_cases (legible : tag.Legible) (constructed : tag.isConstructed = true)
    (read : ofTlv (.node tag length children) = .ok element) :
    element = .unread (.node tag length children) ∨
      ∃ tag' members, IsNode tag' members element ∧ tag'.Legible ∧
        ofTlvs children = .ok members := by
  cases tag with
  | contextSpecific slot form =>
    obtain rfl : form = true := constructed
    obtain ⟨members, inner, rfl⟩ := Except.map_eq_ok_iff.1 read
    exact .inr ⟨_, members, .contextSpecific, legible, inner⟩
  | plain octet =>
    rw [ofTlv] at read
    split at read
    · obtain ⟨members, inner, rfl⟩ := Except.map_eq_ok_iff.1 read
      exact .inr ⟨_, members, .sequence, ⟨by decide, by decide⟩, inner⟩
    · obtain ⟨members, inner, rfl⟩ := Except.map_eq_ok_iff.1 read
      exact .inr ⟨_, members, .set, ⟨by decide, by decide⟩, inner⟩
    · cases read
      exact .inl rfl

/-- A leaf is kept as it is, or read as the element of a leaf that can be written. -/
theorem leaf_cases (legible : tag.Legible) (primitive : tag.isConstructed = false)
    (read : ofTlv (.leaf tag data) = .ok element) (regular : element.Regular) :
    element = .unread (.leaf tag data) ∨
      ∃ tag' data', Coded element (.leaf tag' data') ∧
        (data'.length ≤ data.length ∨ (data'.length ≤ 15 ∧ 7 ≤ data.length)) := by
  cases tag with
  | contextSpecific slot form =>
    obtain rfl : form = false := primitive
    cases read
    exact .inr ⟨_, data, .of_leaf rfl rfl legible rfl, .inl (Nat.le_refl _)⟩
  | plain octet =>
    have years : ∀ time, element = .generalizedTime time → 0 ≤ time.year ∧ time.year ≤ 9999 := by
      rintro time rfl
      exact regular.years time .here
    rcases ofData_written read years with kept | ⟨type, data', plain, few⟩
    · exact .inl kept
    · exact .inr ⟨_, data', plain.coded, few⟩

/-- A value that is kept and announced truly stands for itself. -/
theorem coded_of_kept (spelled : Tlv.Spelled octets tlv) (read : ofTlv tlv = .ok (.unread tlv))
    (regular : (unread tlv).Regular) : Coded (.unread tlv) tlv := by
  have itself := spelled.spellsItself (regular.announced tlv .here)
  exact Sound.coded ⟨rfl, itself, read⟩

theorem IsNode.regular (node : IsNode tag elements element) (regular : element.Regular) :
    ∀ member ∈ elements, member.Regular := by
  intro member direct
  cases node with
  | sequence => exact regular.of_inside direct
  | set => exact regular.of_inside direct
  | contextSpecific =>
    have sequence := regular.of_inside (List.mem_singleton_self _)
    exact sequence.of_inside direct

/-- A value whose contents are twice as long at most, or those of a time, takes twice as many octets
at most: one more for the length. -/
theorem encodedLength_le_double {octet : UInt8} {spelling contents : Octets}
    (measured : Length.Spelled spelling contents.length)
    (few : tlv.length ≤ 2 * contents.length ∨ (tlv.length ≤ 15 ∧ 7 ≤ contents.length)) :
    tlv.encodedLength ≤ 2 * (octet :: (spelling ++ contents)).length := by
  have least := Length.length_write_le measured
  rw [← Length.size_eq_length_write (Length.lt_bound_of_spelled measured)] at least
  rw [Tlv.encodedLength, List.length_cons, List.length_append]
  rcases few with twice | ⟨time, seven⟩
  · have size := Nat.le_trans (Length.size_mono twice) (Length.size_double contents.length)
    have one := Length.size_pos contents.length
    omega
  · have size : Length.size tlv.length = 1 := if_pos (by omega)
    have one := Length.size_pos contents.length
    omega

mutual

/-- **Whatever was read from a value is encoded as a value again,** and takes twice as many octets
at most. -/
theorem exists_coded {octets : Octets} {tlv : Tlv} {element : Element}
    (read : ofTlv tlv = .ok element) (regular : element.Regular) :
    Tlv.Spelled octets tlv →
      ∃ tlv', Coded element tlv' ∧ tlv'.encodedLength ≤ 2 * octets.length
  | .leaf low primitive measured => by
    have spelled := Tlv.Spelled.leaf low primitive measured
    have form := (Bool.not_eq_true _).mp
      (mt Tlv.isConstructed_ofOctet_eq_true_iff.1 (not_not.2 primitive))
    rcases leaf_cases (Tag.legible_ofOctet low) form read regular with
      rfl | ⟨tag, data, coded, few⟩
    · have same := spelled.encodedLength_le
      exact ⟨_, coded_of_kept spelled read regular, by omega⟩
    · have twice := few.imp_left fun le => Nat.le_trans le (Nat.le_mul_of_pos_left _ Nat.two_pos)
      exact ⟨_, coded, encodedLength_le_double measured twice⟩
  | .node low constructed measured inside => by
    have spelled := Tlv.Spelled.node low constructed measured inside
    have form := Tlv.isConstructed_ofOctet_eq_true_iff.2 constructed
    rcases node_cases (Tag.legible_ofOctet low) form read with
      rfl | ⟨tag, members, node, legible, inner⟩
    · have same := spelled.encodedLength_le
      exact ⟨_, coded_of_kept spelled read regular, by omega⟩
    · obtain ⟨tlvs, coded, twice⟩ := exists_forall_coded inner (node.regular regular) inside
      exact ⟨_, node.coded coded legible, encodedLength_le_double measured (.inl twice)⟩

theorem exists_forall_coded {octets : Octets} {tlvs : List Tlv} {elements : List Element}
    (read : ofTlvs tlvs = .ok elements) (regular : ∀ element ∈ elements, element.Regular) :
    Tlv.SpelledAll octets tlvs →
      ∃ tlvs', List.Forall₂ Coded elements tlvs' ∧
        Tlv.encodedLengthAll tlvs' ≤ 2 * octets.length
  | .nil => by
    cases read
    exact ⟨[], .nil, Nat.le_refl 0⟩
  | .cons head tail => by
    cases ofTlvs_eq_ok_iff.1 read with
    | cons first others =>
      obtain ⟨here, there⟩ := List.forall_mem_cons.1 regular
      obtain ⟨tlv, coded, twice⟩ := exists_coded first here head
      obtain ⟨tlvs, all, least⟩ := exists_forall_coded (ofTlvs_eq_ok_iff.2 others) there tail
      refine ⟨tlv :: tlvs, .cons coded all, ?_⟩
      rw [Tlv.encodedLengthAll, List.length_append]
      omega

end

/-! ### Octets -/

/-- **Whatever was read is written, and read back from what is written.** For one element and for
elements in a row, each of them regular: the elements can be written, the octets are read as those
elements again as long as their number fits a word, and there are twice as many of them at most. So
what takes up less than half of what a word counts is written once in a form that stays. -/
theorem ofOctets_toOctets_of_regular (octets : Octets) :
    (∀ element, ofOctets octets = .ok element → element.Regular →
      ∃ written, element.toOctets = .ok written ∧
        (written.length < Length.bound → ofOctets written = .ok element) ∧
        (2 * octets.length < Length.bound → written.length ≤ 2 * octets.length)) ∧
    (∀ elements, listOfOctets octets = .ok elements → (∀ element ∈ elements, element.Regular) →
      ∃ tlvs, toTlvs elements = .ok tlvs ∧
        ((Tlv.writeAll tlvs).length < Length.bound →
          listOfOctets (Tlv.writeAll tlvs) = .ok elements) ∧
        (2 * octets.length < Length.bound → (Tlv.writeAll tlvs).length ≤ 2 * octets.length)) := by
  constructor
  · intro element read regular
    obtain ⟨tlv, spelled, read⟩ := ofOctets_eq_ok_iff.1 read
    obtain ⟨tlv', coded, twice⟩ := exists_coded read regular spelled
    obtain ⟨written, again⟩ := coded.exists_octets
    refine ⟨tlv'.write, written, again, fun fits => ?_⟩
    have spelled' := coded.spelled (Nat.lt_of_le_of_lt twice fits)
    rwa [← spelled'.counted.1]
  · intro elements read regular
    obtain ⟨tlvs, spelled, read⟩ := Except.bind_eq_ok_iff.1 read
    rw [Except.mapError_eq_ok_iff, Tlv.readAll_eq_ok_iff] at spelled
    obtain ⟨tlvs', coded, twice⟩ := exists_forall_coded read regular spelled
    have written := toTlvs_eq_ok_iff.2 (coded.imp fun _ _ coded => coded.written)
    refine ⟨tlvs', written, listOfOctets_of_coded coded, fun fits => ?_⟩
    have sound := forall_sound_of_coded coded (Nat.lt_of_le_of_lt twice fits)
    rwa [Tlv.length_writeAll (forall_spellsItself sound)]

/-- A sequence of an integer with a zero in front, a null value with contents and a value that is
kept, under a length in the long form. -/
def paddedOctets : Octets :=
  [0x30, 0x81, 0x0c, 0x02, 0x02, 0x00, 0x05, 0x05, 0x01, 0xff, 0x60, 0x03, 0x04, 0x01, 0x07]

/-- The element that the padded octets are read as. -/
def paddedElement : Element :=
  .sequence [.integer 5, .null, .unread (.node (.plain 0x60) 3 [.leaf (.plain 0x04) [0x07]])]

/-- The padded octets are replaced by twelve others, which stay. -/
theorem ofOctets_toOctets_of_regular_padded :
    ofOctets paddedOctets = .ok paddedElement ∧ paddedElement.Regular ∧
      listOfOctets paddedOctets = .ok [paddedElement] ∧
      ∃ written, paddedElement.toOctets = .ok written ∧ written.length = 12 ∧
        ofOctets written = .ok paddedElement := by
  have tree : Tlv.readAll paddedOctets = .ok [.node (.plain 0x30) 12
      [.leaf (.plain 0x02) [0x00, 0x05], .leaf (.plain 0x05) [0xff],
        .node (.plain 0x60) 3 [.leaf (.plain 0x04) [0x07]]]] := by
    decide +kernel
  have read : ofOctets paddedOctets = .ok paddedElement := by
    rw [ofOctets, tree]
    rfl
  have row : listOfOctets paddedOctets = .ok [paddedElement] := by
    rw [listOfOctets, tree]
    rfl
  have kept : (Tlv.node (.plain 0x60) 3 [.leaf (.plain 0x04) [0x07]]).Announced := by
    intro inner occurs
    cases occurs with
    | here => decide
    | inside member deeper =>
      obtain rfl := List.mem_singleton.1 member
      cases deeper
      rfl
  have regular : paddedElement.Regular := by
    refine regular_of_inside (by simp [paddedElement]) (by simp [paddedElement]) ?_
    simp only [paddedElement, inside, List.forall_mem_cons]
    refine ⟨?integer, ?null, ?unread, by simp⟩
    case integer => exact regular_of_inside (by simp) (by simp) (by simp [inside])
    case null => exact regular_of_inside (by simp) (by simp) (by simp [inside])
    case unread => exact regular_of_inside (by simp) (by simpa using kept) (by simp [inside])
  obtain ⟨written, same, again, -⟩ :=
    (ofOctets_toOctets_of_regular paddedOctets).1 paddedElement read regular
  have size : written.length = 12 := by
    obtain ⟨tlv, encoded, rfl⟩ := Except.map_eq_ok_iff.1 same
    cases encoded
    decide +kernel
  exact ⟨read, regular, row, written, same, size, again (by rw [size]; decide)⟩

end Element

end X509
