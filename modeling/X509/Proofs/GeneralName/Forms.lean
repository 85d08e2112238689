/-
**The forms of general names, read and written.**

Most forms are written as the very element they were read from: texts and addresses keep their
octets, directory names their elements, and the forms that keep the octets of something else get it
back by reading them. Two forms may be written differently: a registered identifier without the
padding of its arcs, and a string of an EDI party that was given as plain octets as a UTF-8 string.

* `AddressRange.toOctets_of_ofOctets`, `GeneralName.toElement_of_textOf`,
  `OtherName.toElement_of_ofElement` — octets, texts and elements that are kept.
* `DirectoryString.replaces` — a string takes the place of the element it was read from.
* `EdiPartyName.readFields_eq_ok_iff` — the fields of an EDI party.
-/

import X509.GeneralName.Codec
import X509.Proofs.Address.Masks
import X509.Proofs.Element.Tagging
import X509.Proofs.Name.Codec
import X509.Proofs.Value.ObjectIdentifier

namespace X509

open ContentError (fromElement fromPkix)

theorem ContentError.fromElement_eq_ok_iff {α : Type} {step : Except ElementError α} {result : α} :
    fromElement step = .ok result ↔ step = .ok result :=
  Except.mapError_eq_ok_iff

theorem ContentError.fromPkix_eq_ok_iff {α : Type} {step : Except PkixError α} {result : α} :
    fromPkix step = .ok result ↔ step = .ok result :=
  Except.mapError_eq_ok_iff

open ContentError (fromElement_eq_ok_iff fromPkix_eq_ok_iff)

/-! ### Addresses -/

/-- As many octets as an address has are the octets of the address they spell. -/
theorem Octets.ofNatFixed_ofNat {octets : Octets} {count width : Nat} (size : octets.length = count)
    (bits : 256 ^ count = 2 ^ width) :
    ofNatFixed count (BitVec.ofNat width octets.toNat).toNat = octets := by
  have fits := octets.toNat_lt
  rw [size, bits] at fits
  rw [BitVec.toNat_ofNat, Nat.mod_eq_of_lt fits, ← size, ofNatFixed_toNat]

/-- A network found for a mask has the octets of the address and of the mask. -/
theorem Network.octets_of_ofMask? {octets : Octets} {count width : Nat} {range : Network width}
    (size : octets.length = count + count) (bits : 256 ^ count = 2 ^ width)
    (found : ofMask? (BitVec.ofNat width (Octets.toNat (octets.take count)))
      (BitVec.ofNat width (Octets.toNat (octets.drop count))) = some range) :
    Octets.ofNatFixed count range.address.toNat ++ Octets.ofNatFixed count range.mask.toNat =
      octets := by
  obtain ⟨address, mask⟩ := mask_of_ofMask? found
  have front : (octets.take count).length = count := by
    rw [List.length_take]
    omega
  have back : (octets.drop count).length = count := by
    rw [List.length_drop]
    omega
  rw [address, mask, Octets.ofNatFixed_ofNat front bits, Octets.ofNatFixed_ofNat back bits,
    List.take_append_drop]

/-- **The octets of a range of addresses are those it was read from,** host bits included. -/
theorem AddressRange.toOctets_of_ofOctets {context : NameContext} {octets : Octets}
    {range : AddressRange} (read : ofOctets context octets = .ok range) :
    range.toOctets = octets := by
  unfold ofOctets at read
  dsimp only at read
  split at read
  · next size =>
    obtain rfl := Except.ok.inj read
    exact Octets.ofNatFixed_ofNat size (by decide)
  · next size =>
    obtain rfl := Except.ok.inj read
    exact Octets.ofNatFixed_ofNat size (by decide)
  · next size =>
    split at read
    · next found =>
      obtain rfl := Except.ok.inj read
      exact Network.octets_of_ofMask? size (by decide) found
    · cases read
  · next size =>
    split at read
    · next found =>
      obtain rfl := Except.ok.inj read
      exact Network.octets_of_ofMask? size (by decide) found
    · cases read
  · cases read

/-! ### Texts -/

/-- A text is read from ASCII octets. -/
theorem GeneralName.textOf_eq_ok_iff {kind : NameKind} {slot : UInt8} {data : Octets}
    {text : String} :
    textOf kind (.contextSpecific slot false (.octetString data)) = .ok text ↔
      data.isAscii = true ∧ data.toText? = some text := by
  rw [textOf, Element.untag_octets .ia5String nofun rfl, Element.ofData,
    ← Element.asciiText_eq_ok_iff]
  cases Element.asciiText .invalidIa5 data with
  | error fault => exact ⟨nofun, nofun⟩
  | ok spelled =>
    exact ⟨fun same => congrArg Except.ok (Except.ok.inj same),
      fun same => congrArg Except.ok (Except.ok.inj same)⟩

/-- **A text is written as the element it was read from.** -/
theorem GeneralName.toElement_of_textOf {kind : NameKind} {data : Octets} {text : String}
    (read : textOf kind (.contextSpecific kind.tag false (.octetString data)) = .ok text) :
    textElement kind text = .ok (.contextSpecific kind.tag false (.octetString data)) := by
  obtain ⟨ascii, spelling⟩ := textOf_eq_ok_iff.1 read
  rw [textElement, if_pos (Octets.ascii_of_toText? ascii spelling),
    ContentError.fromElement_eq_ok_iff]
  refine Element.implicit_of_leaf rfl ?_ _
  rw [Element.toTlv, Octets.ofText_of_toText? spelling]

/-! ### Forms that keep octets -/

/-- **A name of a form of its own is written as the element it was read from.** -/
theorem OtherName.toElement_of_ofElement {members : List Element} {name : OtherName}
    (steady : (Element.contextSpecific NameKind.other.tag true (.sequence members)).Steady)
    (read : ofElement (.contextSpecific NameKind.other.tag true (.sequence members)) = .ok name) :
    (GeneralName.otherName name).toElement =
      .ok (.contextSpecific NameKind.other.tag true (.sequence members)) := by
  have inside : (Element.sequence members).Steady := steady.of_inside (List.mem_singleton_self _)
  obtain ⟨whole, untagged, fields⟩ := Except.bind_eq_ok_iff.1 read
  obtain rfl : Element.sequence members = whole := Except.ok.inj untagged
  split at fields
  · next typeId constructed inner shape =>
    obtain rfl := Element.sequence.inj shape
    have tagged : (Element.contextSpecific 0 constructed inner).Steady :=
      inside.of_inside (List.mem_cons_of_mem _ List.mem_cons_self)
    split at fields
    · next value found =>
      have wrapped := Element.eq_explicit_of_explicitInner? tagged.readsBack.wasRead found
      rw [wrapped] at tagged ⊢
      obtain ⟨octets, written, same⟩ := Except.bind_eq_ok_iff.1 fields
      obtain rfl := Except.ok.inj same
      rw [ContentError.fromElement_eq_ok_iff] at written
      have back := tagged.of_explicit.readsBack.read written
      exact Except.bind_eq_ok_iff.2 ⟨value, ContentError.fromElement_eq_ok_iff.2 back, rfl⟩
    · cases fields
  · cases fields
  · cases fields
  · cases fields
  · cases fields

/-! ### EDI parties -/

/-- **A string takes the place of the element it was read from.** Only plain octets are written as
another element, which has the same octets. -/
theorem DirectoryString.replaces {element : Element} {string : DirectoryString}
    (steady : element.Steady) (read : ofElement element = .ok string) :
    string.toElement.Replaces element := by
  obtain ⟨-, same⟩ | ⟨octets, text, rfl, spelling, rfl⟩ := cases_of_ofElement read
  · rw [same]
    exact steady.replaces_self
  · have sound : Element.Sound (.octetString octets) (Element.leafOf .octetString octets) :=
      steady.sound_of_written rfl
    have plain : (Element.utf8String text).plainType? = some .utf8String := rfl
    obtain ⟨legible, primitive⟩ := Element.legible_plainType plain
    have written : (Element.utf8String text).toTlv = .ok (Element.leafOf .utf8String octets) := by
      rw [Element.toTlv, Octets.ofText_of_toText? spelling]
    have read : Element.ofTlv (Element.leafOf .utf8String octets) = .ok (.utf8String text) := by
      show Element.ofData .utf8String (.universal .utf8String) octets = _
      rw [Element.ofData, spelling]
    exact sound.replaces_of_leaf written read legible primitive (Nat.le_refl _)

namespace EdiPartyName

variable {fields : List Element} {assigner party : Option DirectoryString}
  {result : Option DirectoryString × Option DirectoryString}

/-- One field of an EDI party: it wraps a string, and its slot is the next one that may come. -/
theorem readFields_cons {field : Element} (wasRead : field.WasRead)
    (read : readFields assigner party (field :: fields) = .ok result) :
    ∃ slot value string, field = .explicit slot value ∧
      DirectoryString.ofElement value = .ok string ∧ party = none ∧
        ((slot = 0 ∧ assigner = none ∧ readFields (some string) none fields = .ok result) ∨
          (slot = 1 ∧ readFields assigner (some string) fields = .ok result)) := by
  cases field with
  | contextSpecific slot constructed inner =>
    rw [readFields] at read
    split at read
    · cases read
    next value found =>
    rw [Element.eq_explicit_of_explicitInner? wasRead found]
    split at read
    · next first =>
      obtain ⟨rfl, rfl, rfl⟩ := first
      obtain ⟨string, here, rest⟩ := Except.bind_eq_ok_iff.1 read
      rw [ContentError.fromPkix_eq_ok_iff] at here
      exact ⟨0, value, string, rfl, here, rfl, .inl ⟨rfl, rfl, rest⟩⟩
    split at read
    · next second =>
      obtain ⟨rfl, rfl⟩ := second
      obtain ⟨string, here, rest⟩ := Except.bind_eq_ok_iff.1 read
      rw [ContentError.fromPkix_eq_ok_iff] at here
      exact ⟨1, value, string, rfl, here, rfl, .inr ⟨rfl, rest⟩⟩
    · cases read
  | _ => cases read

/-- After the party nothing may come. -/
theorem readFields_of_party {string : DirectoryString} (wasRead : ∀ field ∈ fields, field.WasRead)
    (read : readFields assigner (some string) fields = .ok result) :
    fields = [] ∧ result = (assigner, some string) := by
  cases fields with
  | nil => exact ⟨rfl, (Except.ok.inj read).symm⟩
  | cons field fields =>
    obtain ⟨_, _, _, -, -, missing, -⟩ := readFields_cons (wasRead field List.mem_cons_self) read
    cases missing

/-- After the assigner the party comes. -/
theorem readFields_of_assigner {name string : DirectoryString}
    (wasRead : ∀ field ∈ fields, field.WasRead)
    (read : readFields (some name) none fields = .ok (assigner, some string)) :
    assigner = some name ∧ ∃ value, fields = [.explicit 1 value] ∧
      DirectoryString.ofElement value = .ok string := by
  cases fields with
  | nil => cases read
  | cons field fields =>
    obtain ⟨slot, value, party, rfl, here, -, ⟨-, missing, -⟩ | ⟨rfl, rest⟩⟩ :=
      readFields_cons (wasRead _ List.mem_cons_self) read
    · cases missing
    · obtain ⟨rfl, same⟩ := readFields_of_party (List.forall_mem_cons.1 wasRead).2 rest
      cases same
      exact ⟨rfl, value, rfl, here⟩

theorem readFields_assigner {value : Element} {string : DirectoryString}
    (here : DirectoryString.ofElement value = .ok string) (fields : List Element) :
    readFields none none (.explicit 0 value :: fields) = readFields (some string) none fields := by
  rw [Element.explicit, readFields]
  dsimp only [Element.explicitInner?]
  rw [if_pos ⟨rfl, rfl, rfl⟩, fromPkix_eq_ok_iff.2 here]
  rfl

theorem readFields_party {value : Element} {string : DirectoryString}
    (here : DirectoryString.ofElement value = .ok string) (assigner : Option DirectoryString) :
    readFields assigner none [.explicit 1 value] = .ok (assigner, some string) := by
  rw [Element.explicit, readFields]
  dsimp only [Element.explicitInner?]
  rw [if_neg (fun first => absurd first.1 (by decide)), if_pos ⟨rfl, rfl⟩,
    fromPkix_eq_ok_iff.2 here]
  rfl

/-- The fields of an EDI party: its strings in EXPLICIT tags, the assigner first if there is one. -/
inductive AreFields : EdiPartyName → List Element → Prop where
  | alone {value : Element} {party : DirectoryString}
      (here : DirectoryString.ofElement value = .ok party) :
      AreFields { nameAssigner := none, partyName := party } [.explicit 1 value]
  | assigned {value value' : Element} {assigner party : DirectoryString}
      (here : DirectoryString.ofElement value = .ok assigner)
      (there : DirectoryString.ofElement value' = .ok party) :
      AreFields { nameAssigner := some assigner, partyName := party }
        [.explicit 0 value, .explicit 1 value']

theorem AreFields.read {name : EdiPartyName} (shape : AreFields name fields) :
    readFields none none fields = .ok (name.nameAssigner, some name.partyName) := by
  cases shape with
  | alone here => exact readFields_party here none
  | assigned here there => exact (readFields_assigner here _).trans (readFields_party there _)

/-- **The strings that are read are those of the fields.** -/
theorem readFields_eq_ok_iff {name : EdiPartyName} (wasRead : ∀ field ∈ fields, field.WasRead) :
    readFields none none fields = .ok (name.nameAssigner, some name.partyName) ↔
      AreFields name fields := by
  refine ⟨fun read => ?_, AreFields.read⟩
  obtain ⟨assigner, string⟩ := name
  cases fields with
  | nil => cases read
  | cons field fields =>
    have others := (List.forall_mem_cons.1 wasRead).2
    obtain ⟨slot, value, found, rfl, here, -, ⟨rfl, -, rest⟩ | ⟨rfl, rest⟩⟩ :=
      readFields_cons (wasRead _ List.mem_cons_self) read
    · obtain ⟨rfl, value', rfl, party⟩ := readFields_of_assigner others rest
      exact .assigned here party
    · obtain ⟨rfl, same⟩ := readFields_of_party others rest
      cases same
      exact .alone here

/-- A party is read from the fields behind the tag. -/
theorem ofElement_eq_ok_iff {slot : UInt8} {name : EdiPartyName} :
    ofElement (.contextSpecific slot true (.sequence fields)) = .ok name ↔
      readFields none none fields = .ok (name.nameAssigner, some name.partyName) := by
  constructor
  · intro read
    obtain ⟨_, untagged, rest⟩ := Except.bind_eq_ok_iff.1 read
    obtain rfl := Except.ok.inj untagged
    obtain ⟨⟨assigner, string?⟩, strings, same⟩ := Except.bind_eq_ok_iff.1 rest
    cases string? with
    | none => cases same
    | some string =>
      obtain rfl := Except.ok.inj same
      exact strings
  · intro strings
    exact Except.bind_eq_ok_iff.2 ⟨.sequence fields, rfl,
      Except.bind_eq_ok_iff.2 ⟨_, strings, rfl⟩⟩

/-- The fields that are written for an EDI party. -/
def fieldElements (name : EdiPartyName) : List Element :=
  (name.nameAssigner.toList.map fun string => Element.explicit 0 string.toElement) ++
    [Element.explicit 1 name.partyName.toElement]

/-- **The fields that are written are those of the party they were written for.** -/
theorem areFields_fieldElements (name : EdiPartyName) : AreFields name name.fieldElements := by
  obtain ⟨assigner, party⟩ := name
  cases assigner with
  | none => exact .alone party.ofElement_toElement
  | some string => exact .assigned string.ofElement_toElement party.ofElement_toElement

/-- **The fields that are written take the place of those that were read.** -/
theorem fieldElements_replace {name : EdiPartyName} (steady : ∀ field ∈ fields, field.Steady)
    (shape : AreFields name fields) :
    List.Forall₂ Element.Replaces name.fieldElements fields := by
  have field {slot : UInt8} {value : Element} {string : DirectoryString}
      (inside : Element.explicit slot value ∈ fields)
      (here : DirectoryString.ofElement value = .ok string) :
      (Element.explicit slot string.toElement).Replaces (Element.explicit slot value) :=
    (DirectoryString.replaces (steady _ inside).of_explicit here).explicit (steady _ inside)
  cases shape with
  | alone here => exact .cons (field List.mem_cons_self here) .nil
  | assigned here there =>
    exact .cons (field List.mem_cons_self here)
      (.cons (field (List.mem_cons_of_mem _ List.mem_cons_self) there) .nil)

end EdiPartyName

end X509
