/-
**EDI parties and the strings in them.**

A directory string is a choice, so the tags of the two fields of an EDI party are EXPLICIT, and each
wraps a string of one of the four types. The octets that an IMPLICIT tag would leave are taken for a
string here too, as long as they spell a text. Such a party is written with UTF-8 strings, and so
not as the element it was read from; every other party is.

* `EdiPartyName.IsFields` — the grammar of the fields, for what counts as a string.
* `DirectoryString.exists_ofElement_iff` — what is taken for a string.
* `GeneralName.ofElement_ediParty_iff` — which elements are EDI parties, and which of them are
  written again.
* `GeneralName.exists_ediParty_of_octets` — an EDI party with an octet string in it.
-/

import X509.Proofs.GeneralName.Codec

namespace X509

/-! ### Strings -/

/-- Whether an element is plain octets that spell a text. -/
def Element.isTextOctets : Element → Bool
  | .octetString octets => octets.toText?.isSome
  | _ => false

/-- **Strings and the octets of texts are taken for directory strings.** -/
theorem DirectoryString.exists_ofElement_iff {element : Element} :
    (∃ string, ofElement element = .ok string) ↔
      (element.isString || element.isTextOctets) = true := by
  rw [Bool.or_eq_true]
  constructor
  · rintro ⟨string, read⟩
    obtain ⟨isString, -⟩ | ⟨octets, text, rfl, spelling, -⟩ := cases_of_ofElement read
    · exact .inl isString
    · exact .inr (Option.isSome_of_eq_some spelling)
  · rintro (isString | spells)
    · obtain ⟨string, read, -⟩ := exists_of_isString isString
      exact ⟨string, read⟩
    · cases element with
      | octetString octets =>
        obtain ⟨text, spelling⟩ := Option.isSome_iff_exists.1 spells
        exact ⟨.utf8 text, by rw [ofElement, spelling]; rfl⟩
      | _ => cases spells

/-- A directory string is written as the element it was read from exactly if that is a string. -/
theorem DirectoryString.toElement_eq_iff {element : Element} {string : DirectoryString}
    (read : ofElement element = .ok string) :
    string.toElement = element ↔ element.isString = true := by
  refine ⟨fun same => same ▸ string.isString_toElement, fun isString => ?_⟩
  obtain ⟨-, same⟩ | ⟨octets, text, rfl, -, -⟩ := cases_of_ofElement read
  · exact same
  · cases isString

namespace EdiPartyName

variable {fields : List Element} {name : EdiPartyName}

/-! ### Fields -/

/-- **The grammar of an EDI party:** an assigner under an EXPLICIT tag, which may be missing, and
the party under another one. -/
inductive IsFields (isText : Element → Bool) : List Element → Prop where
  | alone {party : Element} (text : isText party = true) : IsFields isText [.explicit 1 party]
  | assigned {assigner party : Element} (text : isText assigner = true)
      (text' : isText party = true) : IsFields isText [.explicit 0 assigner, .explicit 1 party]

/-- Fields by the grammar are those of a party. -/
theorem exists_areFields_iff :
    (∃ name, AreFields name fields) ↔
      IsFields (fun value => value.isString || value.isTextOctets) fields := by
  constructor
  · rintro ⟨name, shape⟩
    cases shape with
    | alone here => exact .alone (DirectoryString.exists_ofElement_iff.1 ⟨_, here⟩)
    | assigned here there =>
      exact .assigned (DirectoryString.exists_ofElement_iff.1 ⟨_, here⟩)
        (DirectoryString.exists_ofElement_iff.1 ⟨_, there⟩)
  · intro shape
    cases shape with
    | alone text =>
      obtain ⟨party, here⟩ := DirectoryString.exists_ofElement_iff.2 text
      exact ⟨_, .alone here⟩
    | assigned text text' =>
      obtain ⟨assigner, here⟩ := DirectoryString.exists_ofElement_iff.2 text
      obtain ⟨party, there⟩ := DirectoryString.exists_ofElement_iff.2 text'
      exact ⟨_, .assigned here there⟩

/-- **The fields that are written are those that were read if each wraps a string.** -/
theorem fieldElements_eq_iff (shape : AreFields name fields) :
    name.fieldElements = fields ↔ IsFields Element.isString fields := by
  constructor
  · rintro rfl
    obtain ⟨assigner, party⟩ := name
    cases assigner with
    | none => exact .alone party.isString_toElement
    | some string => exact .assigned string.isString_toElement party.isString_toElement
  · intro strings
    cases strings with
    | alone text =>
      cases shape with
      | alone here =>
        exact congrArg ([Element.explicit 1 ·]) ((DirectoryString.toElement_eq_iff here).2 text)
    | assigned text text' =>
      cases shape with
      | assigned here there =>
        have first := (DirectoryString.toElement_eq_iff here).2 text
        have second := (DirectoryString.toElement_eq_iff there).2 text'
        exact congrArg₂ ([Element.explicit 0 ·, Element.explicit 1 ·]) first second

end EdiPartyName

namespace GeneralName

/-! ### Names -/

/-- The name of an EDI party is read from its fields. -/
theorem ofElement_ediParty_eq_ok_iff {context : NameContext} {fields : List Element}
    {name : GeneralName} (decoded : ∀ field ∈ fields, field.WasRead) :
    ofElement context (.contextSpecific 5 true (.sequence fields)) = .ok name ↔
      ∃ party, EdiPartyName.AreFields party fields ∧ .ediPartyName party = name := by
  show ofTagged context .ediParty _ = _ ↔ _
  rw [ofTagged, Except.map_eq_ok_iff]
  simp only [EdiPartyName.ofElement_eq_ok_iff, EdiPartyName.readFields_eq_ok_iff decoded]

/-- **An EDI party is a sequence of fields by the grammar,** in which strings and the octets of
texts count as strings. It is written as the element it was read from exactly if each field wraps a
string. -/
theorem ofElement_ediParty_iff {fields : List Element} (context : NameContext)
    (decoded : ∀ field ∈ fields, field.WasRead) :
    ((∃ name, ofElement context (.contextSpecific 5 true (.sequence fields)) = .ok name) ↔
        EdiPartyName.IsFields (fun value => value.isString || value.isTextOctets) fields) ∧
      ∀ name, ofElement context (.contextSpecific 5 true (.sequence fields)) = .ok name →
        (name.toElement = .ok (.contextSpecific 5 true (.sequence fields)) ↔
          EdiPartyName.IsFields Element.isString fields) := by
  constructor
  · rw [← EdiPartyName.exists_areFields_iff]
    constructor
    · rintro ⟨name, read⟩
      obtain ⟨party, shape, -⟩ := (ofElement_ediParty_eq_ok_iff decoded).1 read
      exact ⟨party, shape⟩
    · rintro ⟨party, shape⟩
      exact ⟨_, (ofElement_ediParty_eq_ok_iff decoded).2 ⟨party, shape, rfl⟩⟩
  · intro name read
    obtain ⟨party, shape, rfl⟩ := (ofElement_ediParty_eq_ok_iff decoded).1 read
    rw [← EdiPartyName.fieldElements_eq_iff shape]
    show Except.ok (Element.contextSpecific 5 true (.sequence party.fieldElements)) = _ ↔ _
    simp

/-- An assigner given as octets and a party given as a printable string. -/
theorem ofElement_ediParty_iff_octets :
    let assigner := Element.explicit 0 (.octetString [0x61])
    let party := Element.explicit 1 (.printableString "x")
    (∀ field ∈ [assigner, party], field.WasRead) ∧
      ∃ name, ofElement .plain (.contextSpecific 5 true (.sequence [assigner, party])) = .ok name ∧
        name.toElement ≠ .ok (.contextSpecific 5 true (.sequence [assigner, party])) := by
  intro assigner party
  have octets : Element.WasRead (.octetString [0x61]) :=
    ⟨Element.leafOf .octetString [0x61], rfl⟩
  have string : Element.WasRead (.printableString "x") :=
    ⟨Element.leafOf .printableString [0x78], rfl⟩
  have decoded : ∀ field ∈ [assigner, party], field.WasRead :=
    List.forall_mem_cons.2 ⟨octets.explicit 0, List.forall_mem_cons.2 ⟨string.explicit 1, nofun⟩⟩
  obtain ⟨accepted, written⟩ := ofElement_ediParty_iff .plain decoded
  obtain ⟨name, read⟩ := accepted.2 (.assigned rfl rfl)
  have noString : ¬ EdiPartyName.IsFields Element.isString
      [.explicit 0 (.octetString [0x61]), .explicit 1 (.printableString "x")] := by
    intro strings
    cases strings with
    | assigned text _ => cases text
  exact ⟨decoded, name, read, fun same => noString ((written name read).1 same)⟩

/-- **A field of an EDI party that holds octets is accepted,** though it is no string. -/
theorem exists_ediParty_of_octets :
    ¬ ∀ (context : NameContext) (fields : List Element), (∀ field ∈ fields, field.WasRead) →
      ((∃ name, ofElement context (.contextSpecific 5 true (.sequence fields)) = .ok name) ↔
          EdiPartyName.IsFields Element.isString fields) ∧
        ∀ name, ofElement context (.contextSpecific 5 true (.sequence fields)) = .ok name →
          name.toElement = .ok (.contextSpecific 5 true (.sequence fields)) := by
  intro grammar
  have octets : Element.WasRead (.octetString [0x78]) :=
    ⟨Element.leafOf .octetString [0x78], rfl⟩
  obtain ⟨accepted, -⟩ := grammar .plain [.explicit 1 (.octetString [0x78])]
    (List.forall_mem_cons.2 ⟨octets.explicit 1, nofun⟩)
  have read : ofElement .plain
      (.contextSpecific 5 true (.sequence [.explicit 1 (.octetString [0x78])])) =
        .ok (.ediPartyName { nameAssigner := none, partyName := .utf8 "x" }) := by
    decide +kernel
  cases accepted.1 ⟨_, read⟩ with
  | alone text => cases text

end GeneralName

end X509
