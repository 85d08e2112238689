/-
**Names that only the base of a subtree may be.**

The context a name stands in matters to four forms: the base of a subtree may be a network, a domain
with a dot in front, such a domain in place of a mailbox, or a resource without a scheme. In all
else the two contexts agree, so a name is read anywhere exactly if it is read as such a base and is
none of these four.

* `isDomain_plain_iff`, `isMailbox_plain_iff`, `isUri_plain_iff` — texts.
* `AddressRange.ofOctets_plain_eq_ok_iff` — addresses.
* `GeneralName.ofElement_plain_eq_ok_iff` — names of every form.
-/

import X509.Proofs.GeneralName.Authority
import X509.Proofs.GeneralName.Codec

namespace X509

open ContentError (fromElement)

/-! ### Texts -/

/-- **A domain may stand anywhere if it may be the base of a subtree and has no dot in front.** -/
theorem isDomain_plain_iff {text : List Char} :
    isDomain .plain text = true ↔ isDomain .subtree text = true ∧ text.head? ≠ some '.' := by
  constructor
  · intro plain
    refine ⟨isDomain_subtree_of_plain plain, fun dotted => ?_⟩
    obtain ⟨rest, rfl⟩ := List.head?_eq_some_iff.1 dotted
    -- the label before the dot is empty
    simp [isDomain, Text.splitOn, Text.splitWhere, areLabels, isLabel] at plain
  · rintro ⟨base, bare⟩
    have same : dropDot text = text := by
      unfold dropDot
      split
      · exact absurd rfl bare
      · rfl
    simpa [isDomain, same] using base

/-- Behind an at sign the context does not matter. -/
theorem isMailbox_plain_iff {text : List Char} :
    isMailbox .plain text = true ↔
      isMailbox .subtree text = true ∧ ¬ ('@' ∉ text ∧ text.head? = some '.') := by
  unfold isMailbox
  cases split : Text.splitLast? '@' text with
  | none =>
    have free := Text.splitLast?_eq_none_iff.1 split
    simp only [Bool.and_eq_true, isDomain_plain_iff, free, not_false_eq_true, true_and, and_assoc]
  | some parts =>
    obtain ⟨-, whole⟩ := Text.splitLast?_eq_some split
    have inside : '@' ∈ text := by
      rw [whole]
      exact List.mem_append_right _ List.mem_cons_self
    simp [inside]

/-- Anywhere but in the base of a subtree a resource needs a scheme. -/
theorem isUri_plain_iff {text : List Char} :
    isUri .plain text = true ↔ isUri .subtree text = true ∧ Uri.HasScheme text := by
  unfold isUri
  rw [← Uri.isSome_afterScheme?_iff]
  cases (Uri.afterScheme? text).isSome <;> simp

/-! ### Addresses -/

/-- As many octets as one address has are that address in either context. -/
theorem AddressRange.ofOctets_context {octets : Octets}
    (single : octets.length = 4 ∨ octets.length = 16) (context context' : NameContext) :
    ofOctets context octets = ofOctets context' octets := by
  rcases single with size | size <;> simp only [ofOctets, size]

/-- What is read is one address, of one of two lengths, or a network in the base of a subtree. -/
theorem AddressRange.cases_of_ofOctets {context : NameContext} {octets : Octets}
    {range : AddressRange} (read : ofOctets context octets = .ok range) :
    ((octets.length = 4 ∨ octets.length = 16) ∧ range.isNetwork = false) ∨
      (context = .subtree ∧ range.isNetwork = true) := by
  unfold ofOctets at read
  dsimp only at read
  split at read
  · next size =>
    obtain rfl := Except.ok.inj read
    exact .inl ⟨.inl size, rfl⟩
  · next size =>
    obtain rfl := Except.ok.inj read
    exact .inl ⟨.inr size, rfl⟩
  · split at read
    · obtain rfl := Except.ok.inj read
      exact .inr ⟨rfl, rfl⟩
    · cases read
  · split at read
    · obtain rfl := Except.ok.inj read
      exact .inr ⟨rfl, rfl⟩
    · cases read
  · cases read

/-- **Octets are read as one address in either context, and as a network only in the base of a
subtree.** -/
theorem AddressRange.ofOctets_plain_eq_ok_iff {octets : Octets} {range : AddressRange} :
    ofOctets .plain octets = .ok range ↔
      ofOctets .subtree octets = .ok range ∧ range.isNetwork = false := by
  constructor
  · intro read
    obtain ⟨single, alone⟩ | ⟨base, -⟩ := cases_of_ofOctets read
    · exact ⟨ofOctets_context single .subtree .plain ▸ read, alone⟩
    · cases base
  · rintro ⟨read, alone⟩
    obtain ⟨single, -⟩ | ⟨-, network⟩ := cases_of_ofOctets read
    · rw [ofOctets_context single .plain .subtree, read]
    · exact absurd (alone.symm.trans network) Bool.false_ne_true

namespace GeneralName

variable {context : NameContext} {kind : NameKind} {element : Element} {name : GeneralName}

/-! ### Names -/

/-- **The names that only the base of a subtree may be.** -/
def IsBaseOnly : GeneralName → Prop
  | .ipAddress range => range.isNetwork = true
  | .dnsName domain => domain.toList.head? = some '.'
  | .rfc822Name mailbox => '@' ∉ mailbox.toList ∧ mailbox.toList.head? = some '.'
  | .uri text => ¬ Uri.HasScheme text.toList
  | _ => False

/-- A check of a text passes when the test in it does. -/
theorem check_eq_ok_iff {fault : ContentError} {passes : Bool} :
    (if passes = true then Except.ok () else Except.error fault) = .ok () ↔ passes = true := by
  cases passes <;> simp

/-- **A text is read as a name when it passes the check of the form.** -/
theorem readText_eq_ok_iff {make : String → GeneralName}
    {check : String → Except ContentError Unit} :
    (do let text ← textOf kind element; check text; pure (make text)) = .ok name ↔
      ∃ text, textOf kind element = .ok text ∧ check text = .ok () ∧ make text = name := by
  rw [Except.bind_eq_ok_iff]
  refine exists_congr fun text => and_congr_right fun _ => ?_
  rw [Except.bind_eq_ok_iff]
  constructor
  · rintro ⟨_, passed, same⟩
    exact ⟨passed, Except.ok.inj same⟩
  · rintro ⟨passed, rfl⟩
    exact ⟨(), passed, rfl⟩

/-- What the context forbids of a text, it forbids of the name. -/
theorem readText_plain_iff {make : String → GeneralName}
    {check : NameContext → String → Except ContentError Unit}
    (allowed : ∀ text, check .plain text = .ok () ↔
      check .subtree text = .ok () ∧ ¬ (make text).IsBaseOnly) :
    (do let text ← textOf kind element; check .plain text; pure (make text)) = .ok name ↔
      (do let text ← textOf kind element; check .subtree text; pure (make text)) = .ok name ∧
        ¬ name.IsBaseOnly := by
  rw [readText_eq_ok_iff, readText_eq_ok_iff]
  constructor
  · rintro ⟨text, read, passed, rfl⟩
    obtain ⟨passed, rest⟩ := (allowed text).1 passed
    exact ⟨⟨text, read, passed, rfl⟩, rest⟩
  · rintro ⟨⟨text, read, passed, rfl⟩, rest⟩
    exact ⟨text, read, (allowed text).2 ⟨passed, rest⟩, rfl⟩

/-- An address is read from the octets behind the tag. -/
theorem ofTagged_ipAddress_eq_ok_iff :
    ofTagged context .ipAddress element = .ok name ↔
      ∃ octets, fromElement (element.untag .octetString) = .ok (.octetString octets) ∧
        ∃ range, AddressRange.ofOctets context octets = .ok range ∧ .ipAddress range = name := by
  rw [ofTagged, Except.bind_eq_ok_iff]
  constructor
  · rintro ⟨value, here, rest⟩
    split at rest
    · next octets => exact ⟨octets, here, Except.map_eq_ok_iff.1 rest⟩
    · cases rest
  · rintro ⟨octets, here, read⟩
    exact ⟨_, here, Except.map_eq_ok_iff.2 read⟩

/-- What the context forbids of an address, it forbids of the name. -/
theorem ofTagged_ipAddress_plain_iff :
    ofTagged .plain .ipAddress element = .ok name ↔
      ofTagged .subtree .ipAddress element = .ok name ∧ ¬ name.IsBaseOnly := by
  rw [ofTagged_ipAddress_eq_ok_iff, ofTagged_ipAddress_eq_ok_iff]
  constructor
  · rintro ⟨octets, here, range, read, rfl⟩
    obtain ⟨read, single⟩ := AddressRange.ofOctets_plain_eq_ok_iff.1 read
    exact ⟨⟨octets, here, range, read, rfl⟩, Bool.eq_false_iff.1 single⟩
  · rintro ⟨⟨octets, here, range, read, rfl⟩, single⟩
    have alone : range.isNetwork = false := Bool.eq_false_iff.2 single
    exact ⟨octets, here, range, AddressRange.ofOctets_plain_eq_ok_iff.2 ⟨read, alone⟩, rfl⟩

/-- The other forms have no names that only the base of a subtree may be. -/
theorem not_isBaseOnly_of_kind (kind : name.kind ∉ [.rfc822, .dns, .uri, .ipAddress]) :
    ¬ name.IsBaseOnly := by
  cases name with
  | rfc822Name | dnsName | uri | ipAddress => exact absurd (by simp [GeneralName.kind]) kind
  | _ => exact not_false

theorem ofTagged_plain_eq_ok_iff :
    ofTagged .plain kind element = .ok name ↔
      ofTagged .subtree kind element = .ok name ∧ ¬ name.IsBaseOnly := by
  cases kind with
  | rfc822 =>
    refine readText_plain_iff fun text => ?_
    rw [checkRfc822Name, checkRfc822Name, check_eq_ok_iff, check_eq_ok_iff, isMailbox_plain_iff]
    rfl
  | dns =>
    refine readText_plain_iff fun text => ?_
    rw [checkDnsName, checkDnsName, check_eq_ok_iff, check_eq_ok_iff, isDomain_plain_iff]
    rfl
  | uri =>
    refine readText_plain_iff fun text => ?_
    rw [checkUri, checkUri, check_eq_ok_iff, check_eq_ok_iff, isUri_plain_iff, IsBaseOnly, not_not]
  | ipAddress => exact ofTagged_ipAddress_plain_iff
  | other | x400Address | directory | ediParty | registeredId =>
    -- these forms are read without the context
    refine ⟨fun read => ⟨read, not_isBaseOnly_of_kind ?_⟩, And.left⟩
    rw [kind_of_ofTagged read]
    decide

/-- **A name is read anywhere exactly if it is read as the base of a subtree and is none of the
names that only such a base may be:** a network, a domain with a dot in front, alone or in place of
a mailbox, or a resource without a scheme. -/
theorem ofElement_plain_eq_ok_iff (element : Element) (name : GeneralName) :
    ofElement .plain element = .ok name ↔
      ofElement .subtree element = .ok name ∧ ¬ name.IsBaseOnly := by
  rw [ofElement_eq_ok_iff, ofElement_eq_ok_iff]
  simp only [ofTagged_plain_eq_ok_iff, exists_and_right, ← and_assoc]

end GeneralName

end X509
