/-
**Extensions that are sent arrive as they were.**

An extension is put into an envelope, the envelope into an element, the element into octets. On the
way back each is taken out again, and the content is read from the octets of the envelope. Two
halves make up the way: the envelope is an element that stands for an encoded value, whatever
octets it holds; and content, if there is any, is read from the octets it is encoded in. They meet
at the octets of the content, which are those of a fresh encoding in every reachable extension. What
is critical stays so, because an extension keeps its flag when it is read.

* `Envelope.exists_coded` — the element of an envelope stands for an encoded value.
* `ExtensionProfile.Sendable.arrives` — an extension whose content is restored arrives.
* `ExtensionProfile.restores_of_coded` — content that is encoded as one element is restored.
* `ExtensionProfile.arrives_of_present` — the five kinds, from every reachable extension.
-/

import X509.Proofs.Element.Rewriting
import X509.Proofs.Extension.Atomicity
import X509.Proofs.Extension.Coherence
import X509.Proofs.GeneralName.Codec

namespace X509

open ContentError (fromElement_eq_ok_iff)

/-! ### Envelopes -/

/-- **The element of an envelope stands for an encoded value,** which takes up more octets than the
envelope holds. -/
theorem Envelope.exists_coded (envelope : Envelope) {spelling : Octets}
    (identified : ObjectIdentifier.ofOctets spelling = .ok envelope.oid) :
    ∃ tlv, Element.Coded envelope.toElement tlv ∧
      envelope.value.length < tlv.write.length := by
  obtain ⟨oid, critical, value⟩ := envelope
  obtain ⟨shortest, plain, -⟩ := Element.exists_plain_objectIdentifier identified
  have flag : Element.Plain (.boolean true) .boolean [0xff] := ⟨rfl, rfl, rfl⟩
  have contents : Element.Plain (.octetString value) .octetString value := ⟨rfl, rfl, rfl⟩
  -- An envelope has three members, or two if it is not critical.
  obtain ⟨tlvs, members, inside⟩ : ∃ tlvs,
      List.Forall₂ Element.Coded ([.objectIdentifier oid] ++
        (if critical then [.boolean true] else []) ++ [.octetString value]) tlvs ∧
      Element.leafOf .octetString value ∈ tlvs := by
    cases critical with
    | false =>
      exact ⟨_, .cons plain.coded (.cons contents.coded .nil), .tail _ (.head _)⟩
    | true =>
      exact ⟨_, .cons plain.coded (.cons flag.coded (.cons contents.coded .nil)),
        .tail _ (.tail _ (.head _))⟩
  have coded := Element.IsNode.sequence.coded members ⟨by decide, by decide⟩
  refine ⟨_, coded, ?_⟩
  calc value.length
      < (Element.leafOf .octetString value).encodedLength := Tlv.length_lt_encodedLength (.leaf _ _)
    _ < (Tlv.ofChildren (.universal .sequence) tlvs).encodedLength :=
      Tlv.encodedLength_lt_ofChildren inside
    _ ≤ (Tlv.ofChildren (.universal .sequence) tlvs).write.length := coded.counted

namespace ExtensionProfile

variable {Content : Type} {profile : ExtensionProfile Content} {extension : TypedExtension Content}
  {content : Content} {element : Element} {tlv : Tlv}

/-- The envelope of a reachable extension holds a fresh encoding of its content. -/
theorem Reachable.toEnvelope (reachable : profile.Reachable extension) :
    (profile.toEnvelope extension).1 = (profile.freshValue extension.content).map fun value =>
      { oid := profile.oid, critical := extension.critical, value } := by
  rw [← value_of_coherent reachable.coherent]
  rfl

/-- An envelope with the identifier of a kind is read as an extension of that kind. -/
theorem ofEnvelope_of_oid (profile : ExtensionProfile Content) (critical : Bool) (value : Octets) :
    profile.ofEnvelope { oid := profile.oid, critical, value } = profile.parse critical value :=
  if_pos rfl

/-! ### Flags -/

/-- **A kind whose extensions can be sent:** its object identifier can be written, and an extension
that is newly made or was read keeps its flag when it is read. -/
structure Sendable (profile : ExtensionProfile Content) : Prop where
  identified : ∃ spelling, ObjectIdentifier.ofOctets spelling = .ok profile.oid
  made : profile.keptCritical profile.critical = profile.critical
  kept (critical : Bool) :
    profile.keptCritical (profile.keptCritical critical) = profile.keptCritical critical

/-- **Every reachable extension keeps its flag when it is read.** -/
theorem Sendable.keptCritical_eq (sendable : profile.Sendable)
    (reachable : profile.Reachable extension) :
    profile.keptCritical extension.critical = extension.critical := by
  rcases reachable.critical_cases with same | ⟨flag, same⟩
  · rw [same, sendable.made]
  · rw [same, sendable.kept]

/-! ### From the extension to the octets and back -/

/-- Whether content has octets and is read from them, if their number fits a word. -/
def Restores (profile : ExtensionProfile Content) (content : Content) : Prop :=
  ∃ octets, profile.freshValue content = .ok octets ∧
    (octets.length < Length.bound → profile.read octets = .ok content)

/-- **An envelope and its octets carry an extension:** they are made from it, and if the number of
octets fits a word, what is read from them cannot be told from it. -/
structure Carries (profile : ExtensionProfile Content) (extension : TypedExtension Content)
    (envelope : Envelope) (octets : Octets) : Prop where
  packed : (profile.toEnvelope extension).1 = .ok envelope
  written : envelope.toElement.toOctets = .ok octets
  read : octets.length < Length.bound → Element.ofOctets octets = .ok envelope.toElement
  opened : Envelope.ofElement envelope.toElement = .ok envelope
  unpacked : octets.length < Length.bound →
    ∃ again, profile.ofEnvelope envelope = .ok again ∧ profile.SameView extension again

/-- Whether an extension can be sent and arrives. -/
def Arrives (profile : ExtensionProfile Content) (extension : TypedExtension Content) : Prop :=
  ∃ envelope octets, profile.Carries extension envelope octets

/-- What carries an extension that arrives is its envelope and the octets of that. -/
theorem Arrives.carries {envelope : Envelope} {octets : Octets}
    (arrives : profile.Arrives extension)
    (packed : (profile.toEnvelope extension).1 = .ok envelope)
    (written : envelope.toElement.toOctets = .ok octets) :
    profile.Carries extension envelope octets := by
  obtain ⟨other, others, carries⟩ := arrives
  obtain rfl : other = envelope := Except.ok.inj (carries.packed.symm.trans packed)
  obtain rfl : others = octets := Except.ok.inj (carries.written.symm.trans written)
  exact carries

/-- **A reachable extension arrives if its content is restored.** -/
theorem Sendable.arrives (sendable : profile.Sendable) (reachable : profile.Reachable extension)
    (restores : profile.Restores extension.content) : profile.Arrives extension := by
  obtain ⟨value, fresh, read⟩ := restores
  obtain ⟨spelling, identified⟩ := sendable.identified
  let envelope : Envelope := { oid := profile.oid, critical := extension.critical, value }
  let again : TypedExtension Content := { extension with cache := .empty }
  have packed : (profile.toEnvelope extension).1 = .ok envelope := by
    rw [reachable.toEnvelope, fresh]
    rfl
  obtain ⟨tlv, coded, inside⟩ := envelope.exists_coded identified
  obtain ⟨written, back⟩ := coded.exists_octets
  refine ⟨envelope, tlv.write, packed, written, back, Envelope.ofElement_toElement envelope,
    fun fits => ⟨again, ?_, ⟨fun name => rfl, rfl, ?_⟩⟩⟩
  · rw [ofEnvelope_of_oid, parse_eq_ok_iff]
    refine ⟨_, read (Nat.lt_trans inside fits), ?_⟩
    rw [sendable.keptCritical_eq reachable]
  · have reread : (profile.value again).1 = profile.freshValue extension.content :=
      value_of_coherent (coherent_of_isEmpty rfl)
    rw [reread, value_of_coherent reachable.coherent]

/-! ### Content that is one element -/

/-- One element is read from its octets. -/
theorem readValue_of_coded (coded : Element.Coded element tlv) (subject : Subject)
    (fits : tlv.write.length < Length.bound) : readValue subject tlv.write = .ok element := by
  rw [readValue, coded.listOfOctets fits]
  rfl

/-- Content that is encoded as one element has the octets of that element. -/
theorem freshValue_of_coded (coded : Element.Coded element tlv)
    (encoded : profile.encode content = (writeValue element).map some) :
    profile.freshValue content = .ok tlv.write := by
  have written : writeValue element = .ok tlv.write :=
    fromElement_eq_ok_iff.2 coded.exists_octets.1
  rw [freshValue, encoded, written]
  rfl

/-- **Content that is encoded as one element is restored,** if it is read from octets that hold that
element. -/
theorem restores_of_coded (coded : Element.Coded element tlv)
    (encoded : profile.encode content = (writeValue element).map some)
    (read : ∀ octets, readValue profile.subject octets = .ok element →
      profile.read octets = .ok content) : profile.Restores content :=
  ⟨tlv.write, freshValue_of_coded coded encoded, fun fits =>
    read tlv.write (readValue_of_coded coded profile.subject fits)⟩

/-! ### Key identifiers -/

theorem sendable_subjectKeyIdentifier : subjectKeyIdentifier.Sendable where
  identified := ⟨[0x55, 0x1d, 0x0e], rfl⟩
  made := rfl
  kept _ := rfl

theorem restores_subjectKeyIdentifier (identifier : KeyIdentifier) :
    subjectKeyIdentifier.Restores (some identifier) := by
  have plain : Element.Plain identifier.toElement .octetString identifier.octets := ⟨rfl, rfl, rfl⟩
  refine restores_of_coded plain.coded rfl fun octets found => ?_
  exact Except.bind_eq_ok_iff.2 ⟨_, found, rfl⟩

/-! ### Issuers -/

theorem sendable_certificateIssuer : certificateIssuer.Sendable where
  identified := ⟨[0x55, 0x1d, 0x1d], rfl⟩
  made := rfl
  kept _ := rfl

theorem restores_certificateIssuer {names : GeneralNames} (filled : names.names ≠ [])
    (valid : ∀ name ∈ names.names, name.WireValid .plain) : certificateIssuer.Restores names := by
  obtain ⟨members, writes, reads, coded⟩ := GeneralName.exists_coded_of_wireValid filled valid
  obtain ⟨tlv, coded⟩ := Element.IsNode.sequence.exists_coded coded ⟨by decide, by decide⟩
  refine restores_of_coded coded ?_ fun octets found => ?_
  · simp only [certificateIssuer, writes]
    rfl
  · exact Except.bind_eq_ok_iff.2 ⟨_, found, reads⟩

/-! ### Reasons -/

theorem sendable_crlReasonCode : crlReasonCode.Sendable where
  identified := ⟨[0x55, 0x1d, 0x15], rfl⟩
  made := rfl
  kept _ := rfl

/-- No octets hold no element. -/
theorem readValue_nil (subject : Subject) :
    readValue subject [] = .error (.memberCount subject 1 0) := by
  have none : Element.listOfOctets [] = .ok [] := Element.listOfOctets_of_coded .nil (by decide)
  rw [readValue, none]
  rfl

/-- **Every reason is restored,** the unspecified one from no octets. -/
theorem restores_crlReasonCode (reason : Reason) : crlReasonCode.Restores reason := by
  by_cases unspecified : reason = .unspecified
  · subst unspecified
    exact ⟨[], rfl, fun _ => rfl⟩
  · have plain : Element.Plain (.enumerated reason.code) .enumerated
        (Integer.toOctets reason.code) := ⟨rfl, rfl, (Element.ofTlv_toOctets _).2⟩
    refine restores_of_coded plain.coded (if_neg unspecified) fun octets found => ?_
    cases octets with
    | nil => cases (readValue_nil _).symm.trans found
    | cons first rest =>
      refine Except.bind_eq_ok_iff.2 ⟨_, found, ?_⟩
      simp only [Reason.ofCode?_code]
      rfl

/-! ### Numbers -/

variable {oid : ObjectIdentifier} {subject : Subject} {name label : String} {alwaysCritical : Bool}

theorem sendable_number (spelling : Octets)
    (identified : ObjectIdentifier.ofOctets spelling = .ok oid) :
    (number oid subject name label alwaysCritical).Sendable where
  identified := ⟨spelling, identified⟩
  made := Bool.or_self alwaysCritical
  kept critical := by
    simp only [number, Bool.or_assoc, Bool.or_self]

theorem sendable_crlNumber : crlNumber.Sendable :=
  sendable_number [0x55, 0x1d, 0x14] rfl

theorem sendable_deltaCrlIndicator : deltaCrlIndicator.Sendable :=
  sendable_number [0x55, 0x1d, 0x1b] rfl

/-- What is written for an integer stands for it, of either sign. -/
theorem coded_integer (value : Int) :
    Element.Coded (.integer value) (Element.leafOf .integer (Integer.toOctets value)) := by
  have plain : Element.Plain (.integer value) .integer (Integer.toOctets value) :=
    ⟨rfl, rfl, (Element.ofTlv_toOctets value).1⟩
  exact plain.coded

/-- **A number is read from octets that hold an integer,** unless it is negative. -/
theorem read_number {value : Int} {octets : Octets}
    (found : readValue subject octets = .ok (.integer value)) :
    (number oid subject name label alwaysCritical).read octets =
      if 0 ≤ value then .ok (some value) else .error (.outOfRange subject .number) := by
  simp only [number, found]
  by_cases natural : 0 ≤ value
  · rw [if_pos natural]
    exact if_neg (Int.not_lt.2 natural)
  · rw [if_neg natural]
    exact if_pos (Int.not_le.1 natural)

theorem restores_number {value : Int} (natural : 0 ≤ value) :
    (number oid subject name label alwaysCritical).Restores (some value) := by
  refine restores_of_coded (coded_integer value) rfl fun octets found => ?_
  exact (read_number found).trans (if_pos natural)

/-! ### The five kinds -/

/-- **An extension arrives from every reachable state in which it has its attribute.** A reason is
there in any state. Of a number it is asked that it is not negative, of an issuer that each name is
read, as it is outside of subtrees, from an element that reads back throughout. -/
theorem arrives_of_present :
    (∀ extension identifier, subjectKeyIdentifier.Reachable extension →
      extension.content = some identifier → subjectKeyIdentifier.Arrives extension) ∧
    (∀ extension, certificateIssuer.Reachable extension → extension.content.names ≠ [] →
      (∀ name ∈ extension.content.names, name.WireValid .plain) →
        certificateIssuer.Arrives extension) ∧
    (∀ extension, crlReasonCode.Reachable extension → crlReasonCode.Arrives extension) ∧
    (∀ extension value, crlNumber.Reachable extension → extension.content = some value →
      0 ≤ value → crlNumber.Arrives extension) ∧
    ∀ extension value, deltaCrlIndicator.Reachable extension → extension.content = some value →
      0 ≤ value → deltaCrlIndicator.Arrives extension := by
  refine ⟨?key, ?issuer, ?reason, ?number, ?base⟩
  case key =>
    intro extension identifier reachable present
    refine sendable_subjectKeyIdentifier.arrives reachable ?_
    rw [present]
    exact restores_subjectKeyIdentifier identifier
  case issuer =>
    intro extension reachable filled valid
    exact sendable_certificateIssuer.arrives reachable (restores_certificateIssuer filled valid)
  case reason =>
    intro extension reachable
    exact sendable_crlReasonCode.arrives reachable (restores_crlReasonCode extension.content)
  case number =>
    intro extension value reachable present natural
    refine sendable_crlNumber.arrives reachable ?_
    rw [present]
    exact restores_number natural
  case base =>
    intro extension value reachable present natural
    refine sendable_deltaCrlIndicator.arrives reachable ?_
    rw [present]
    exact restores_number natural

/-- An issuer whose first name cannot be written arrives once it has another. So does the number of
an extended list that was asked for its octets before it changed. -/
theorem arrives_of_present_changed :
    let name := GeneralName.dnsName "a.b"
    let issuer := certificateIssuer.run (certificateIssuer.make ⟨[.dnsName "é"]⟩)
      [.value, .attr (.set "issuer" (.generalNames ⟨[name]⟩))]
    let base := deltaCrlIndicator.run (deltaCrlIndicator.make (some 5))
      [.value, .attr (.set "VALUE" (.integer 128))]
    let envelope : Envelope := ⟨⟨[2, 5, 29, 27]⟩, true, [0x02, 0x02, 0x00, 0x80]⟩
    let octets : Octets :=
      [0x30, 0x0e, 0x06, 0x03, 0x55, 0x1d, 0x1b, 0x01, 0x01, 0xff, 0x04, 0x04,
        0x02, 0x02, 0x00, 0x80]
    name.WireValid .plain ∧
      certificateIssuer.Carries issuer
        ⟨⟨[2, 5, 29, 29]⟩, true, [0x30, 0x05, 0x82, 0x03, 0x61, 0x2e, 0x62]⟩
        [0x30, 0x11, 0x06, 0x03, 0x55, 0x1d, 0x1d, 0x01, 0x01, 0xff, 0x04, 0x07,
          0x30, 0x05, 0x82, 0x03, 0x61, 0x2e, 0x62] ∧
      deltaCrlIndicator.Carries base envelope octets ∧
      Element.ofOctets octets = .ok envelope.toElement ∧
      ∃ again, deltaCrlIndicator.ofEnvelope envelope = .ok again ∧
        deltaCrlIndicator.SameView base again := by
  intro name issuer base envelope octets
  obtain ⟨-, issuers, -, -, bases⟩ := arrives_of_present
  have valid : name.WireValid .plain :=
    ⟨.contextSpecific 2 false (.octetString [0x61, 0x2e, 0x62]),
      Element.steady_leaf ⟨by decide, by decide⟩ (by decide), rfl⟩
  have each : ∀ other ∈ issuer.content.names, other.WireValid .plain := by
    intro other member
    obtain rfl := List.mem_singleton.1 member
    exact valid
  have first : certificateIssuer.Arrives issuer :=
    issuers issuer ((Reachable.made _).run _) (by decide) each
  have present : base.content = some 128 := by decide +kernel
  have second : deltaCrlIndicator.Carries base envelope octets :=
    (bases base 128 ((Reachable.made _).run _) present (by decide)).carries (by decide +kernel)
      (by decide +kernel)
  exact ⟨valid, first.carries rfl (by decide +kernel), second, second.read (by decide),
    second.unpacked (by decide)⟩

end ExtensionProfile

end X509
