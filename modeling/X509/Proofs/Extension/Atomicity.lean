/-
**What a failed change leaves behind.**

A change can fail at three places: its name is unknown, its value has another type, or the new
content cannot be encoded. The first two are found before anything is assigned. The third is found
after, so the new content stays; this is the one way in which a failed change can be seen. Key
identifiers, reasons and numbers can always be encoded and fields are not encoded at all, which
leaves the names of an issuer as the only content that can fail there.

* `FieldProfile.atomic` — a field is kept by every failed request.
* `ExtensionProfile.atomic_of_encodes` — content that can always be encoded is kept.
* `ExtensionProfile.certificateIssuer_not_atomic` — an issuer that cannot be encoded is not.
* `ExtensionProfile.certificateIssuer_set_unwritable` — what setting such an issuer does.
* `ExtensionProfile.failed_change_kept_or_unwritable` — which kinds keep what they had, and when.
-/

import X509.Extension.Kinds
import X509.Field.Kinds
import X509.Proofs.Extension.Asked

namespace X509

/-! ### Fields -/

namespace FieldProfile

variable {Content : Type}

/-- Whether every failed request to a field leaves its values as they were. -/
def Atomic (profile : FieldProfile Content) : Prop :=
  ∀ (content : Option Content) (request : AttributeSet.Request) (fault : ContentError),
    profile.attributes.answer request content = .error fault →
      ∀ name, profile.attributes.getNamed name (profile.attributes.after request content) =
        profile.attributes.getNamed name content

theorem after_of_answer_eq_error {profile : FieldProfile Content} {content : Option Content}
    {request : AttributeSet.Request} {fault : ContentError}
    (failed : profile.attributes.answer request content = .error fault) :
    profile.attributes.after request content = content := by
  cases request with
  | get name => rfl
  | set name value =>
    simp only [AttributeSet.answer, AttributeSet.after, AttributeSet.setNamed] at failed ⊢
    split at failed
    · next named =>
      rw [if_pos named]
      cases typed : profile.put? value with
      | some other =>
        rw [set_of_put? typed] at failed
        cases failed
      | none => simp only [attributes, typed]
    · next other => rw [if_neg other]
  | delete name =>
    simp only [AttributeSet.answer, AttributeSet.after, AttributeSet.deleteNamed] at failed ⊢
    split at failed
    · cases failed
    · next other => rw [if_neg other]

/-- **Fields are not encoded when they change, so every kind keeps what it had.** -/
theorem atomic (profile : FieldProfile Content) : profile.Atomic := by
  intro content request fault failed name
  rw [after_of_answer_eq_error failed]

end FieldProfile

/-! ### Extensions -/

namespace ExtensionProfile

variable {Content : Type} {profile : ExtensionProfile Content}

/-- Whether two extensions of a kind cannot be told apart by their values, flags and octets. -/
structure SameView (profile : ExtensionProfile Content)
    (before after : TypedExtension Content) : Prop where
  get (name : String) :
    profile.attributes.getNamed name after = profile.attributes.getNamed name before
  critical : after.critical = before.critical
  value : (profile.value after).1 = (profile.value before).1

theorem SameView.refl (extension : TypedExtension Content) :
    profile.SameView extension extension :=
  ⟨fun _ => rfl, rfl, rfl⟩

/-- Whether every failed request to a reachable extension leaves it as it was. -/
def Atomic (profile : ExtensionProfile Content) : Prop :=
  ∀ extension, profile.Reachable extension →
    ∀ (request : AttributeSet.Request) (fault : ContentError),
      profile.attributes.answer request extension = .error fault →
        profile.SameView extension (profile.attributes.after request extension)

/-! ### Content that can always be encoded -/

/-- Whether all content of a kind can be encoded. -/
def Encodes (profile : ExtensionProfile Content) : Prop :=
  ∀ content, ∃ octets?, profile.encode content = .ok octets?

/-- **Content that can always be encoded is kept by every failed request.** -/
theorem atomic_of_encodes (encodes : profile.Encodes) : profile.Atomic := by
  intro extension _ request fault failed
  rcases after_of_answer_eq_error failed with kept | ⟨content, _, unwritable, _⟩
  · rw [kept]
    exact .refl extension
  · obtain ⟨octets?, writable⟩ := encodes content
    rw [writable] at unwritable
    cases unwritable

theorem encodes_subjectKeyIdentifier : subjectKeyIdentifier.Encodes := by
  intro content
  cases content with
  | none => exact ⟨_, rfl⟩
  | some identifier => exact ⟨_, rfl⟩

theorem encodes_crlReasonCode : crlReasonCode.Encodes := by
  intro reason
  simp only [crlReasonCode]
  split
  · exact ⟨_, rfl⟩
  · exact ⟨_, rfl⟩

theorem encodes_number (oid : ObjectIdentifier) (subject : Subject) (name label : String)
    (alwaysCritical : Bool) : (number oid subject name label alwaysCritical).Encodes := by
  intro content
  cases content with
  | none => exact ⟨_, rfl⟩
  | some value => exact ⟨_, rfl⟩

/-! ### Issuers that cannot be encoded -/

/-- **An issuer whose new name is not ASCII refuses it, but has it from then on.** -/
theorem certificateIssuer_not_atomic :
    let before := certificateIssuer.make ⟨[.dnsName "a.b"]⟩
    let request := AttributeSet.Request.set "issuer" (.generalNames ⟨[.dnsName "é"]⟩)
    let after := certificateIssuer.attributes.after request before
    certificateIssuer.attributes.answer request before = .error (.invalidIa5 .dns) ∧
      certificateIssuer.attributes.getNamed "issuer" before =
        .ok (some (.generalNames ⟨[.dnsName "a.b"]⟩)) ∧
      certificateIssuer.attributes.getNamed "issuer" after =
        .ok (some (.generalNames ⟨[.dnsName "é"]⟩)) ∧
      (certificateIssuer.value before).1 = .ok [0x30, 0x05, 0x82, 0x03, 0x61, 0x2e, 0x62] ∧
      (certificateIssuer.value after).1 = .error (.invalidIa5 .dns) ∧
      ¬ certificateIssuer.Atomic := by
  intro before request after
  have failed : certificateIssuer.attributes.answer request before = .error (.invalidIa5 .dns) :=
    rfl
  have first : (certificateIssuer.value before).1 =
      .ok [0x30, 0x05, 0x82, 0x03, 0x61, 0x2e, 0x62] := rfl
  have second : (certificateIssuer.value after).1 = .error (.invalidIa5 .dns) := rfl
  refine ⟨failed, rfl, rfl, first, second, fun atomic => ?_⟩
  have same := (atomic before (.made _) request _ failed).value
  cases first.symm.trans (same.symm.trans second)

/-- What a failed request to an issuer leaves behind when the request was to set names that cannot
be encoded: the names are set, and asking for the octets fails until they change again. -/
structure KeepsUnwritable (extension after : TypedExtension GeneralNames)
    (request : AttributeSet.Request) (fault : ContentError) (name : String)
    (names : GeneralNames) : Prop where
  asked : request = .set name (.generalNames names)
  named : certificateIssuer.attributes.isNamed name = true
  unwritable : certificateIssuer.encode names = .error fault
  get : certificateIssuer.attributes.getNamed name after = .ok (some (.generalNames names))
  critical : after.critical = extension.critical
  /-- Asking changes nothing, so it fails each time. -/
  value : certificateIssuer.value after = (.error fault, after)

theorem certificateIssuer_encode_nil : certificateIssuer.encode ⟨[]⟩ = .ok none := rfl

/-- Names that cannot be encoded are not none at all, so the attribute has them as its value. -/
theorem certificateIssuer_get_of_unwritable {names : GeneralNames} {fault : ContentError}
    (unwritable : certificateIssuer.encode names = .error fault) :
    certificateIssuer.get names = some (.generalNames names) := by
  have filled : names.names.isEmpty = false := by
    cases empty : names.names with
    | nil =>
      obtain rfl : names = ⟨[]⟩ := congrArg GeneralNames.mk empty
      cases certificateIssuer_encode_nil.symm.trans unwritable
    | cons => rfl
  simp only [certificateIssuer, filled]
  rfl

/-- **An issuer refuses names that cannot be encoded, but has them from then on.** -/
theorem certificateIssuer_set_unwritable {name : String} {names : GeneralNames}
    {fault : ContentError} (named : certificateIssuer.attributes.isNamed name = true)
    (unwritable : certificateIssuer.encode names = .error fault)
    (extension : TypedExtension GeneralNames) :
    certificateIssuer.attributes.answer (.set name (.generalNames names)) extension =
        .error fault ∧
      KeepsUnwritable extension
        (certificateIssuer.attributes.after (.set name (.generalNames names)) extension)
        (.set name (.generalNames names)) fault name names := by
  have asked : certificateIssuer.asked? (.set name (.generalNames names)) = some names :=
    if_pos named
  obtain ⟨answered, reached⟩ := after_of_asked?_eq_some asked extension
  rw [assign_of_error unwritable] at answered reached
  refine ⟨answered, rfl, named, unwritable, ?_, ?_, ?_⟩
  · rw [AttributeSet.getNamed, if_pos named, reached]
    exact congrArg Except.ok (certificateIssuer_get_of_unwritable unwritable)
  · rw [reached]
  · rw [reached]
    simp only [value, ValueCache.ask, ValueCache.empty, unwritable]

/-- Only setting names asks an issuer for names that cannot be encoded. -/
theorem certificateIssuer_asked?_of_unwritable {request : AttributeSet.Request}
    {names : GeneralNames} {fault : ContentError}
    (asked : certificateIssuer.asked? request = some names)
    (unwritable : certificateIssuer.encode names = .error fault) :
    ∃ name, request = .set name (.generalNames names) ∧
      certificateIssuer.attributes.isNamed name = true := by
  obtain ⟨name, named, ⟨value, rfl, typed⟩ | ⟨rfl, rfl⟩⟩ := asked?_cases asked
  · cases value with
    | generalNames others =>
      obtain rfl := Option.some.inj typed
      exact ⟨name, rfl, named⟩
    | _ => cases typed
  · cases certificateIssuer_encode_nil.symm.trans unwritable

/-- **A failed request to an issuer leaves it as it was, or sets the names that it refuses.** -/
theorem certificateIssuer_of_answer_eq_error {extension : TypedExtension GeneralNames}
    {request : AttributeSet.Request} {fault : ContentError}
    (failed : certificateIssuer.attributes.answer request extension = .error fault) :
    certificateIssuer.SameView extension (certificateIssuer.attributes.after request extension) ∨
      ∃ name names, KeepsUnwritable extension
        (certificateIssuer.attributes.after request extension) request fault name names := by
  rcases after_of_answer_eq_error failed with kept | ⟨names, asked, unwritable, -⟩
  · rw [kept]
    exact .inl (.refl extension)
  · obtain ⟨name, rfl, named⟩ := certificateIssuer_asked?_of_unwritable asked unwritable
    exact .inr ⟨name, names, (certificateIssuer_set_unwritable named unwritable extension).2⟩

/-! ### All kinds -/

/-- **A failed change leaves a field, or an extension that is no issuer, as it was. It leaves an
issuer as it was unless it was to set names that cannot be encoded.** Each time that is what it was
to do, it fails and the names are set. -/
theorem failed_change_kept_or_unwritable :
    (FieldProfile.algorithmId.Atomic ∧ FieldProfile.serialNumber.Atomic ∧
      FieldProfile.publicKey.Atomic) ∧
    (subjectKeyIdentifier.Atomic ∧ crlReasonCode.Atomic ∧ crlNumber.Atomic ∧
      deltaCrlIndicator.Atomic) ∧
    (∀ extension, certificateIssuer.Reachable extension →
      ∀ (request : AttributeSet.Request) (fault : ContentError),
        certificateIssuer.attributes.answer request extension = .error fault →
          certificateIssuer.SameView extension
              (certificateIssuer.attributes.after request extension) ∨
            ∃ name names, KeepsUnwritable extension
              (certificateIssuer.attributes.after request extension) request fault name names) ∧
    ∀ (extension : TypedExtension GeneralNames) (name : String) (names : GeneralNames)
      (fault : ContentError), certificateIssuer.attributes.isNamed name = true →
        certificateIssuer.encode names = .error fault →
          certificateIssuer.attributes.answer (.set name (.generalNames names)) extension =
              .error fault ∧
            KeepsUnwritable extension
              (certificateIssuer.attributes.after (.set name (.generalNames names)) extension)
              (.set name (.generalNames names)) fault name names := by
  refine ⟨⟨FieldProfile.atomic _, FieldProfile.atomic _, FieldProfile.atomic _⟩,
    ⟨?_, ?_, ?_, ?_⟩, ?_, ?_⟩
  · exact atomic_of_encodes encodes_subjectKeyIdentifier
  · exact atomic_of_encodes encodes_crlReasonCode
  · exact atomic_of_encodes (encodes_number _ _ _ _ _)
  · exact atomic_of_encodes (encodes_number _ _ _ _ _)
  · intro extension _ request fault failed
    exact certificateIssuer_of_answer_eq_error failed
  · intro extension name names fault named unwritable
    exact certificateIssuer_set_unwritable named unwritable extension

/-- A list number refuses an unknown name, a serial number and an issuer a number; all keep what
they had. An issuer refuses a name that is not ASCII, and has it in place of the one before. -/
theorem failed_change_kept_or_unwritable_refused :
    let number := crlNumber.make (some 5)
    let issuer := certificateIssuer.make ⟨[.dnsName "a.b"]⟩
    let unknown := AttributeSet.Request.set "number" (.integer 6)
    let mistyped := AttributeSet.Request.set "issuer" (.integer 6)
    let foreign := AttributeSet.Request.set "Issuer" (.generalNames ⟨[.dnsName "é"]⟩)
    let changed := certificateIssuer.attributes.after foreign issuer
    crlNumber.attributes.answer unknown number =
        .error (.unknownAttribute .crlNumber "number") ∧
      crlNumber.SameView number (crlNumber.attributes.after unknown number) ∧
      FieldProfile.serialNumber.attributes.getNamed "number"
          (FieldProfile.serialNumber.attributes.after unknown none) = .ok none ∧
      certificateIssuer.attributes.answer mistyped issuer =
        .error (.attributeType .certificateIssuer "issuer" "GeneralNames") ∧
      certificateIssuer.SameView issuer (certificateIssuer.attributes.after mistyped issuer) ∧
      certificateIssuer.attributes.answer foreign issuer = .error (.invalidIa5 .dns) ∧
      certificateIssuer.attributes.getNamed "Issuer" changed =
        .ok (some (.generalNames ⟨[.dnsName "é"]⟩)) ∧
      changed.critical = issuer.critical ∧
      certificateIssuer.value changed = (.error (.invalidIa5 .dns), changed) := by
  intro number issuer unknown mistyped foreign changed
  obtain ⟨⟨-, serials, -⟩, ⟨-, -, numbers, -⟩, issuers, refused⟩ :=
    failed_change_kept_or_unwritable
  have first : crlNumber.attributes.answer unknown number =
      .error (.unknownAttribute .crlNumber "number") := by
    rw [AttributeSet.answer, AttributeSet.setNamed_of_unknown (by decide)]
    rfl
  have second : FieldProfile.serialNumber.attributes.answer unknown none =
      .error (.attributeType .serialNumber "number" "SerialNumber") := rfl
  have third : certificateIssuer.attributes.answer mistyped issuer =
      .error (.attributeType .certificateIssuer "issuer" "GeneralNames") := rfl
  obtain ⟨fourth, keeps⟩ := refused issuer "Issuer" ⟨[.dnsName "é"]⟩ _ (by decide) rfl
  refine ⟨first, numbers number (.made _) unknown _ first, ?_, third, ?_, fourth, keeps.get,
    keeps.critical, keeps.value⟩
  · rw [serials none unknown _ second "number"]
    rfl
  · rcases issuers issuer (.made _) mistyped _ third with same | ⟨name, names, keeps⟩
    · exact same
    · have asked : AttributeSet.Request.set "issuer" (.integer 6) =
          .set name (.generalNames names) := keeps.asked
      cases asked

end ExtensionProfile

end X509
