/-
**General names are written and read back.**

A name that was read can be written, and the element written for it takes the place of the one it
was read from: it is read as the same name, and needs no more octets. So what holds of one name
holds of a list of names, whose encoded length stays within bounds.

* `GeneralName.ofElement_eq_ok_iff` — a name is read from a tag of its form.
* `GeneralName.exists_restores` — one name, form by form.
* `GeneralName.ofElement_toElement_stable` — one name and a list of names, by their octets.
* `GeneralName.WireValid` — the names that stand for themselves inside other elements.
-/

import X509.Proofs.Element.Coded
import X509.Proofs.GeneralName.Forms

namespace X509

open ContentError (fromElement_eq_ok_iff fromPkix_eq_ok_iff)

theorem NameKind.ofTag?_eq_some_iff {slot : UInt8} {kind : NameKind} :
    ofTag? slot = some kind ↔ slot = kind.tag := by
  constructor
  · intro found
    unfold ofTag? at found
    split at found <;> cases found <;> rfl
  · rintro rfl
    exact ofTag?_tag kind

namespace GeneralName

variable {context : NameContext} {kind : NameKind} {element inner written : Element}
  {name : GeneralName}

/-! ### Tags -/

/-- **A name is read from an element with the tag of its form,** by the rules of that form. -/
theorem ofElement_eq_ok_iff :
    ofElement context element = .ok name ↔
      ∃ kind inner, element = .contextSpecific kind.tag kind.isConstructed inner ∧
        ofTagged context kind element = .ok name := by
  constructor
  · intro read
    unfold ofElement at read
    split at read
    · next slot constructed inner =>
      split at read
      · cases read
      next kind found =>
      obtain rfl := NameKind.ofTag?_eq_some_iff.1 found
      have form : constructed = kind.isConstructed := by
        cases constructed <;> cases here : kind.isConstructed <;> rw [here] at read <;>
          first | rfl | cases read
      subst form
      refine ⟨kind, inner, rfl, ?_⟩
      cases here : kind.isConstructed <;> rw [here] at read <;> exact read
    · cases read
  · rintro ⟨kind, inner, rfl, read⟩
    rw [ofElement, NameKind.ofTag?_tag]
    dsimp only
    rw [Bool.and_not_self, Bool.not_and_self, if_neg Bool.false_ne_true,
      if_neg Bool.false_ne_true]
    exact read

theorem kind_of_ofTagged (read : ofTagged context kind element = .ok name) : name.kind = kind := by
  cases kind with
  | other | ediParty =>
    obtain ⟨_, -, rfl⟩ := Except.map_eq_ok_iff.1 read
    rfl
  | rfc822 | dns | uri | x400Address =>
    obtain ⟨_, -, rest⟩ := Except.bind_eq_ok_iff.1 read
    obtain ⟨_, -, same⟩ := Except.bind_eq_ok_iff.1 rest
    obtain rfl := Except.ok.inj same
    rfl
  | directory =>
    rw [ofTagged] at read
    split at read
    · obtain ⟨_, -, rfl⟩ := Except.map_eq_ok_iff.1 read
      rfl
    · cases read
  | ipAddress =>
    obtain ⟨_, -, rest⟩ := Except.bind_eq_ok_iff.1 read
    split at rest
    · obtain ⟨_, -, rfl⟩ := Except.map_eq_ok_iff.1 rest
      rfl
    · cases rest
  | registeredId =>
    obtain ⟨_, -, rest⟩ := Except.bind_eq_ok_iff.1 read
    split at rest
    · obtain rfl := Except.ok.inj rest
      rfl
    · cases rest

/-! ### The element that was read -/

/-- **Every form but two is written as the element it was read from.** -/
theorem toElement_of_ofTagged (kept : kind ≠ .ediParty ∧ kind ≠ .registeredId)
    (steady : (Element.contextSpecific kind.tag kind.isConstructed inner).Steady)
    (read : ofTagged context kind (.contextSpecific kind.tag kind.isConstructed inner) = .ok name) :
    name.toElement = .ok (.contextSpecific kind.tag kind.isConstructed inner) := by
  have shape := steady.readsBack.wasRead.contextSpecific_cases
  have within : inner.Steady := steady.of_inside (List.mem_singleton_self inner)
  cases kind with
  | other =>
    obtain ⟨-, members, rfl⟩ | ⟨primitive, -⟩ := shape
    · obtain ⟨_, here, rfl⟩ := Except.map_eq_ok_iff.1 read
      exact OtherName.toElement_of_ofElement steady here
    · cases primitive
  | rfc822 | dns | uri =>
    obtain ⟨constructed, -⟩ | ⟨-, data, rfl⟩ := shape
    · cases constructed
    obtain ⟨text, here, rest⟩ := Except.bind_eq_ok_iff.1 read
    obtain ⟨_, -, same⟩ := Except.bind_eq_ok_iff.1 rest
    obtain rfl := Except.ok.inj same
    exact toElement_of_textOf here
  | x400Address =>
    obtain ⟨-, members, rfl⟩ | ⟨primitive, -⟩ := shape
    · obtain ⟨_, untagged, rest⟩ := Except.bind_eq_ok_iff.1 read
      obtain rfl := Except.ok.inj untagged
      obtain ⟨octets, here, same⟩ := Except.bind_eq_ok_iff.1 rest
      obtain rfl := Except.ok.inj same
      have written : (Element.sequence members).toOctets = .ok octets :=
        fromElement_eq_ok_iff.1 here
      have back := within.readsBack.read written
      exact Except.bind_eq_ok_iff.2 ⟨_, fromElement_eq_ok_iff.2 back, rfl⟩
    · cases primitive
  | directory =>
    rw [ofTagged] at read
    split at read
    · next value found =>
      have wrapped := Element.eq_explicit_of_explicitInner? steady.readsBack.wasRead found
      rw [wrapped] at steady ⊢
      obtain ⟨_, here, rfl⟩ := Except.map_eq_ok_iff.1 read
      rw [fromPkix_eq_ok_iff] at here
      have back := Name.toElement_of_ofElement
        (fun value holds _ => steady.of_explicit value holds.occurs) here
      exact Except.bind_eq_ok_iff.2 ⟨_, fromPkix_eq_ok_iff.2 back, rfl⟩
    · cases read
  | ediParty => exact absurd rfl kept.1
  | ipAddress =>
    obtain ⟨constructed, -⟩ | ⟨primitive, data, rfl⟩ := shape
    · cases constructed
    obtain ⟨_, here, rest⟩ := Except.bind_eq_ok_iff.1 read
    have named number : UniversalType.octetString ≠ .other number := by rintro ⟨⟩
    rw [fromElement_eq_ok_iff, primitive, Element.untag_octets .octetString named rfl] at here
    obtain rfl := Except.ok.inj here
    obtain ⟨range, there, rfl⟩ := Except.map_eq_ok_iff.1 rest
    rw [toElement, AddressRange.toOctets_of_ofOctets there]
    rfl
  | registeredId => exact absurd rfl kept.2

/-! ### The element that is written -/

/-- **A name is restored by an element:** it is written as that element, which takes the place of
the one it was read from, and read from it again. -/
structure Restores (context : NameContext) (element : Element) (name : GeneralName)
    (written : Element) : Prop where
  writes : name.toElement = .ok written
  replaces : written.Replaces element
  reads : ofElement context written = .ok name

/-- Whatever is written as the element it was read from is restored by it. -/
theorem restores_self (steady : element.Steady) (read : ofElement context element = .ok name)
    (written : name.toElement = .ok element) : Restores context element name element :=
  ⟨written, steady.replaces_self, read⟩

/-- A registered identifier is written without the padding of its arcs. -/
theorem exists_restores_of_registeredId
    (steady : (Element.contextSpecific NameKind.registeredId.tag false inner).Steady)
    (read : ofTagged context .registeredId
      (.contextSpecific NameKind.registeredId.tag false inner) = .ok name) :
    ∃ written, Restores context (.contextSpecific NameKind.registeredId.tag false inner) name
      written := by
  obtain ⟨constructed, -⟩ | ⟨-, data, rfl⟩ := steady.readsBack.wasRead.contextSpecific_cases
  · cases constructed
  obtain ⟨_, here, rest⟩ := Except.bind_eq_ok_iff.1 read
  rw [fromElement_eq_ok_iff, Element.untag_octets .objectIdentifier nofun rfl] at here
  obtain ⟨oid, spelled, rfl⟩ := Except.map_eq_ok_iff.1 here
  obtain rfl := Except.ok.inj rest
  rw [Except.mapError_eq_ok_iff] at spelled
  obtain ⟨shortest, written, back, short⟩ := ObjectIdentifier.exists_toOctets_of_ofOctets spelled
  refine ⟨.contextSpecific NameKind.registeredId.tag false (.octetString shortest), ?_, ?_, ?_⟩
  · refine fromElement_eq_ok_iff.2 (Element.implicit_of_leaf rfl ?_ _)
    rw [Element.toTlv, written]
    rfl
  · have sound := steady.readsBack.sound_of_octets
    exact sound.replaces_of_leaf rfl rfl sound.spelled.legible rfl short
  · refine ofElement_eq_ok_iff.2 ⟨.registeredId, .octetString shortest, rfl, ?_⟩
    refine Except.bind_eq_ok_iff.2 ⟨.objectIdentifier oid, ?_, rfl⟩
    rw [fromElement_eq_ok_iff, Element.untag_octets .objectIdentifier nofun rfl, Element.ofData,
      back]
    rfl

/-- The strings of an EDI party are written as elements of their own. -/
theorem exists_restores_of_ediParty
    (steady : (Element.contextSpecific NameKind.ediParty.tag true inner).Steady)
    (read : ofTagged context .ediParty
      (.contextSpecific NameKind.ediParty.tag true inner) = .ok name) :
    ∃ written, Restores context (.contextSpecific NameKind.ediParty.tag true inner) name
      written := by
  obtain ⟨-, fields, rfl⟩ | ⟨primitive, -⟩ := steady.readsBack.wasRead.contextSpecific_cases
  swap
  · cases primitive
  have within : ∀ field ∈ fields, field.Steady :=
    fun field inside => (steady.of_inside (List.mem_singleton_self _)).of_inside inside
  obtain ⟨party, here, rfl⟩ := Except.map_eq_ok_iff.1 read
  have shape := (EdiPartyName.readFields_eq_ok_iff fun field inside =>
    (within field inside).readsBack.wasRead).1 (EdiPartyName.ofElement_eq_ok_iff.1 here)
  refine ⟨.contextSpecific NameKind.ediParty.tag true (.sequence party.fieldElements), rfl, ?_, ?_⟩
  · obtain ⟨tlv, sound⟩ := steady.sound
    exact Element.IsNode.contextSpecific.replaces .contextSpecific sound
      (EdiPartyName.fieldElements_replace within shape)
  · refine ofElement_eq_ok_iff.2 ⟨.ediParty, .sequence party.fieldElements, rfl, ?_⟩
    have strings := (EdiPartyName.areFields_fieldElements party).read
    exact Except.map_eq_ok_iff.2 ⟨party, EdiPartyName.ofElement_eq_ok_iff.2 strings, rfl⟩

/-- **Every name that was read is restored by some element.** -/
theorem exists_restores (steady : element.Steady) (read : ofElement context element = .ok name) :
    ∃ written, Restores context element name written := by
  obtain ⟨kind, inner, rfl, tagged⟩ := ofElement_eq_ok_iff.1 read
  by_cases party : kind = .ediParty
  · subst party
    exact exists_restores_of_ediParty steady tagged
  by_cases registered : kind = .registeredId
  · subst registered
    exact exists_restores_of_registeredId steady tagged
  · exact ⟨_, restores_self steady read (toElement_of_ofTagged ⟨party, registered⟩ steady tagged)⟩

/-- What is read as a name has the tag of its form. -/
theorem eq_contextSpecific_of_ofElement (read : ofElement context element = .ok name) :
    ∃ inner, element = .contextSpecific name.kind.tag name.kind.isConstructed inner := by
  obtain ⟨kind, inner, rfl, tagged⟩ := ofElement_eq_ok_iff.1 read
  obtain rfl := kind_of_ofTagged tagged
  exact ⟨inner, rfl⟩

/-! ### Lists of names -/

/-- Names that were read one by one are restored one by one. -/
theorem exists_forall_restores {members : List Element} {names : List GeneralName}
    (steady : ∀ member ∈ members, member.Steady)
    (read : List.Forall₂ (fun member name => ofElement context member = .ok name) members names) :
    ∃ others : List Element,
      List.Forall₂ (fun name other => name.toElement = .ok other) names others ∧
        List.Forall₂ Element.Replaces others members ∧
          List.Forall₂ (fun other name => ofElement context other = .ok name) others names := by
  induction read with
  | nil => exact ⟨[], .nil, .nil, .nil⟩
  | @cons member name members names here _ ih =>
    obtain ⟨other, restores⟩ := exists_restores (steady member List.mem_cons_self) here
    obtain ⟨others, writes, replaces, reads⟩ :=
      ih fun other inside => steady other (List.mem_cons_of_mem member inside)
    exact ⟨other :: others, .cons restores.writes writes, .cons restores.replaces replaces,
      .cons restores.reads reads⟩

end GeneralName

namespace GeneralNames

variable {context : NameContext} {element : Element} {members : List Element}
  {names : GeneralNames}

/-- **A list of names is read from a sequence that is not empty,** name by name. -/
theorem ofElement_eq_ok_iff :
    ofElement context element = .ok names ↔
      names.names ≠ [] ∧ ∃ members, element = .sequence members ∧
        List.Forall₂ (fun member name => GeneralName.ofElement context member = .ok name) members
          names.names := by
  constructor
  · intro read
    unfold ofElement at read
    split at read
    · cases read
    · next members filled =>
      obtain ⟨list, each, rfl⟩ := Except.map_eq_ok_iff.1 read
      rw [Except.mapM_eq_ok_iff] at each
      refine ⟨?_, members, rfl, each⟩
      rintro rfl
      exact filled (List.forall₂_nil_right_iff.1 each)
    · cases read
  · rintro ⟨filled, members, rfl, each⟩
    cases members with
    | nil => exact absurd (List.forall₂_nil_left_iff.1 each) filled
    | cons member members =>
      exact Except.map_eq_ok_iff.2 ⟨names.names, Except.mapM_eq_ok_iff.2 each, rfl⟩

theorem toElement?_eq_ok (filled : names.names ≠ [])
    (writes : List.Forall₂ (fun name member => name.toElement = .ok member) names.names members) :
    names.toElement? = .ok (some (.sequence members)) := by
  rw [toElement?, List.isEmpty_eq_false_iff.2 filled, if_neg Bool.false_ne_true]
  exact Except.map_eq_ok_iff.2 ⟨members, Except.mapM_eq_ok_iff.2 writes, rfl⟩

/-- **A list of names is written as a sequence that takes the place of the one it was read
from.** -/
theorem exists_restores (steady : element.Steady) (read : ofElement context element = .ok names) :
    ∃ written : List Element, names.toElement? = .ok (some (.sequence written)) ∧
      List.Forall₂ (fun name member => name.toElement = .ok member) names.names written ∧
        (Element.sequence written).Replaces element ∧
          ofElement context (.sequence written) = .ok names := by
  obtain ⟨filled, members, rfl, each⟩ := ofElement_eq_ok_iff.1 read
  obtain ⟨written, writes, replaces, reads⟩ :=
    GeneralName.exists_forall_restores (fun member inside => steady.of_inside inside) each
  obtain ⟨tlv, sound⟩ := steady.sound
  exact ⟨written, toElement?_eq_ok filled writes, writes,
    Element.IsNode.sequence.replaces .sequence sound replaces,
    ofElement_eq_ok_iff.2 ⟨filled, written, rfl, reads⟩⟩

end GeneralNames

namespace GeneralName

/-! ### By their octets -/

/-- **A name or a list of names that was read is written, reads back from its octets and keeps its
tags and its order.** The octets it was read from are not mentioned, since an element that reads
back is read from its own. -/
theorem ofElement_toElement_stable (context : NameContext) {element : Element}
    (steady : element.Steady) :
    (∀ name, ofElement context element = .ok name →
      ∃ constructed inner octets,
        name.toElement = .ok (.contextSpecific name.kind.tag constructed inner) ∧
          (constructed = true ↔ name.kind ∈ [.other, .x400Address, .directory, .ediParty]) ∧
            (Element.contextSpecific name.kind.tag constructed inner).toOctets = .ok octets ∧
              Element.ofOctets octets = .ok (.contextSpecific name.kind.tag constructed inner) ∧
                ofElement context (.contextSpecific name.kind.tag constructed inner) = .ok name) ∧
      ∀ names, GeneralNames.ofElement context element = .ok names →
        ∃ members written octets, element = .sequence members ∧
          List.Forall₂ (fun member name => ofElement context member = .ok name) members
            names.names ∧
          names.toElement? = .ok (some (.sequence written)) ∧
            List.Forall₂ (fun name member => name.toElement = .ok member) names.names written ∧
              (Element.sequence written).toOctets = .ok octets ∧
                Element.ofOctets octets = .ok (.sequence written) ∧
                  GeneralNames.ofElement context (.sequence written) = .ok names := by
  constructor
  · intro name read
    obtain ⟨written, writes, replaces, reads⟩ := exists_restores steady read
    obtain ⟨octets, spelled, back⟩ := replaces.exists_octets
    obtain ⟨inner, rfl⟩ := eq_contextSpecific_of_ofElement reads
    refine ⟨_, inner, octets, writes, ?_, spelled, back, reads⟩
    cases name.kind <;> decide
  · intro names read
    obtain ⟨-, members, rfl, each⟩ := GeneralNames.ofElement_eq_ok_iff.1 read
    obtain ⟨written, writes, one_by_one, replaces, reads⟩ :=
      GeneralNames.exists_restores steady read
    obtain ⟨octets, spelled, back⟩ := replaces.exists_octets
    exact ⟨members, written, octets, rfl, each, writes, one_by_one, spelled, back, reads⟩

/-- A registered identifier with a padded arc, in a list by itself. It is written without the
padding. -/
theorem ofElement_toElement_stable_padded :
    let padded := Element.contextSpecific 8 false (.octetString [0x2a, 0x80, 0x03])
    let shortest := Element.contextSpecific 8 false (.octetString [0x2a, 0x03])
    let name := GeneralName.registeredId ⟨[1, 2, 3]⟩
    Element.ofOctets [0x30, 0x05, 0x88, 0x03, 0x2a, 0x80, 0x03] = .ok (.sequence [padded]) ∧
      (Element.sequence [padded]).Steady ∧ ofElement .plain padded = .ok name ∧
        name.toElement = .ok shortest ∧ ofElement .plain shortest = .ok name ∧
          GeneralNames.ofElement .plain (.sequence [padded]) = .ok ⟨[name]⟩ ∧
            GeneralNames.ofElement .plain (.sequence [shortest]) = .ok ⟨[name]⟩ := by
  intro padded shortest name
  have legible : (Tag.contextSpecific 8 false).Legible := ⟨by decide, by decide⟩
  have leaf : padded.Sound (.leaf (.contextSpecific 8 false) [0x2a, 0x80, 0x03]) :=
    Element.sound_leaf legible (by decide)
  have row : (Element.sequence [padded]).Sound
      (.ofChildren (.universal .sequence) [.leaf (.contextSpecific 8 false) [0x2a, 0x80, 0x03]]) :=
    Element.IsNode.sequence.sound (.cons leaf .nil) ⟨by decide, by decide⟩ (by decide)
  have within : padded.Steady := Element.steady_leaf legible (by decide)
  have steady : (Element.sequence [padded]).Steady := by
    refine Element.steady_of_inside row.readsBack fun member inside => ?_
    obtain rfl := List.mem_singleton.1 inside
    exact within
  have read : ofElement .plain padded = .ok name := rfl
  have list : GeneralNames.ofElement .plain (.sequence [padded]) = .ok ⟨[name]⟩ := rfl
  have digits : [42, 3].flatMap ObjectIdentifier.numberOctets = [0x2a, 0x03] := by decide +kernel
  have shortened : name.toElement = .ok shortest := by
    have fit : ∀ number ∈ [42, 3], number < ObjectIdentifier.arcBound := by decide
    have arcs : ObjectIdentifier.toOctets ⟨[1, 2, 3]⟩ = .ok [0x2a, 0x03] :=
      digits ▸ ObjectIdentifier.toOctets_unpack fit
    refine fromElement_eq_ok_iff.2 (Element.implicit_of_leaf rfl ?_ _)
    rw [Element.toTlv, arcs]
    rfl
  refine ⟨Element.ofOctets_eq_ok_iff.2 ⟨_, row.spelled, row.read⟩, steady, read, shortened, ?_,
    list, ?_⟩
  · obtain ⟨single, -⟩ := ofElement_toElement_stable .plain within
    obtain ⟨_, _, _, writes, -, -, -, reads⟩ := single name read
    rwa [← Except.ok.inj (writes.symm.trans shortened)]
  · obtain ⟨-, several⟩ := ofElement_toElement_stable .plain steady
    obtain ⟨_, written, _, -, -, -, writes, -, -, reads⟩ := several ⟨[name]⟩ list
    obtain ⟨_, _, here, there, rfl⟩ := List.forall₂_cons_left_iff.1 writes
    obtain rfl := List.forall₂_nil_left_iff.1 there
    rwa [← Except.ok.inj (here.symm.trans shortened)]

/-! ### Inside other elements -/

/-- **A name that is read, in a context, from an element in which every element reads back.** -/
def WireValid (context : NameContext) (name : GeneralName) : Prop :=
  ∃ element : Element, element.Steady ∧ ofElement context element = .ok name

/-- Such a name is written as an element that stands for an encoded value, and is read from it. -/
theorem WireValid.exists_coded (valid : name.WireValid context) :
    ∃ written, name.toElement = .ok written ∧ ofElement context written = .ok name ∧
      ∃ tlv, Element.Coded written tlv := by
  obtain ⟨element, steady, read⟩ := valid
  obtain ⟨written, restores⟩ := exists_restores steady read
  obtain ⟨_, tlv, -, sound, -⟩ := restores.replaces
  exact ⟨written, restores.writes, restores.reads, tlv, sound.coded⟩

/-- So is a list of such names. -/
theorem exists_coded_of_wireValid {names : GeneralNames} (filled : names.names ≠ [])
    (valid : ∀ name ∈ names.names, name.WireValid context) :
    ∃ members, names.toElement? = .ok (some (.sequence members)) ∧
      GeneralNames.ofElement context (.sequence members) = .ok names ∧
        ∀ member ∈ members, ∃ tlv, Element.Coded member tlv := by
  obtain ⟨members, writes, reads, codes⟩ :=
    Element.exists_fields fun name inside => (valid name inside).exists_coded
  exact ⟨members, GeneralNames.toElement?_eq_ok filled writes,
    GeneralNames.ofElement_eq_ok_iff.2 ⟨filled, members, rfl, reads⟩, codes⟩

end GeneralName

end X509
