/-
**Which numbers of lists are read again.**

The numbers of lists are not negative, and a negative one is refused when it is read. But a number
that is made or set is not looked at. So a negative number that comes in stays, is encoded, and
leaves in an envelope that no reader takes, these readers included. What is in range stays in range
as long as no request gives a negative number, since an extension holds what it was last given.

* `ExtensionProfile.forall_inRange_run_iff` — which runs stay in range.
* `ExtensionProfile.ofEnvelope_toEnvelope` — which envelopes are read again.
* `ExtensionProfile.number_inRange_iff` — both, for the two kinds of numbers.
* `ExtensionProfile.crlNumber_negative` — a number that is sent and not read again.
-/

import X509.Proofs.Extension.Arrival

namespace X509.ExtensionProfile

variable {oid : ObjectIdentifier} {subject : Subject} {name label : String} {alwaysCritical : Bool}
  {extension : TypedExtension (Option Int)} {value : Int}

/-- Whether a number, if there is one, is in the range of the numbers of lists. -/
def InRange (content : Option Int) : Prop :=
  ∀ value, content = some value → 0 ≤ value

/-! ### Numbers that come in -/

/-- **Only numbers in range are read.** -/
theorem inRange_of_read {octets : Octets} {content : Option Int}
    (read : (number oid subject name label alwaysCritical).read octets = .ok content) :
    InRange content := by
  obtain ⟨element, found, rest⟩ := Except.bind_eq_ok_iff.1 read
  cases element with
  | integer value =>
    rw [read_number found] at read
    split at read
    · next natural =>
      obtain rfl := Except.ok.inj read
      rintro _ ⟨⟩
      exact natural
    · cases read
  | _ => cases rest

/-- What a request asks an extension to hold is a number that it gives, or none. -/
theorem inRange_of_assigned? {request : Request} {content : Option Int}
    (asked : (number oid subject name label alwaysCritical).assigned? request = some content)
    (natural : ∀ attr value,
      (number oid subject name label alwaysCritical).attributes.isNamed attr = true →
        request = .attr (.set attr (.integer value)) → 0 ≤ value) :
    InRange content := by
  cases request with
  | value => cases asked
  | envelope => cases asked
  | attr request =>
    obtain ⟨attr, named, ⟨given, rfl, typed⟩ | ⟨rfl, rfl⟩⟩ := asked?_cases asked
    · cases given with
      | integer value =>
        obtain rfl := Option.some.inj typed
        rintro _ ⟨⟩
        exact natural attr value named rfl
      | _ => cases typed
    · rintro _ ⟨⟩

/-- A request that gives a number asks for it. -/
theorem assigned?_integer {attr : String} (value : Int)
    (named : (number oid subject name label alwaysCritical).attributes.isNamed attr = true) :
    (number oid subject name label alwaysCritical).assigned? (.attr (.set attr (.integer value))) =
      some (some value) :=
  if_pos named

/-- **A number is in range all through a run** exactly if it is so before, and every number that the
run gives is in range. -/
theorem forall_inRange_run_iff (extension : TypedExtension (Option Int)) (requests : List Request) :
    (∀ before, before <+: requests →
      InRange ((number oid subject name label alwaysCritical).run extension before).content) ↔
    InRange extension.content ∧ ∀ attr value,
      (number oid subject name label alwaysCritical).attributes.isNamed attr = true →
        .attr (.set attr (.integer value)) ∈ requests → 0 ≤ value := by
  rw [forall_content_run_iff]
  refine and_congr_right fun _ => ?_
  constructor
  · intro all attr value named member
    have asked := List.mem_filterMap.2 ⟨_, member, assigned?_integer value named⟩
    exact all (some value) asked value rfl
  · intro natural content asked
    obtain ⟨request, member, asked⟩ := List.mem_filterMap.1 asked
    refine inRange_of_assigned? asked fun attr value named given => natural attr value named ?_
    rwa [← given]

/-! ### Numbers that are sent -/

/-- **An envelope is made of every number, and read again if the number is in range.** -/
theorem ofEnvelope_toEnvelope
    (sendable : (number oid subject name label alwaysCritical).Sendable)
    (reachable : (number oid subject name label alwaysCritical).Reachable extension)
    (present : extension.content = some value) :
    ∃ envelope, ((number oid subject name label alwaysCritical).toEnvelope extension).1 =
        .ok envelope ∧
      (envelope.value.length < Length.bound →
        (number oid subject name label alwaysCritical).ofEnvelope envelope =
          if 0 ≤ value then .ok { extension with cache := .empty }
          else .error (.outOfRange subject .number)) := by
  have coded := coded_integer value
  let octets := (Element.leafOf .integer (Integer.toOctets value)).write
  have fresh : (number oid subject name label alwaysCritical).freshValue extension.content =
      .ok octets := by
    rw [present]
    exact freshValue_of_coded coded rfl
  refine ⟨{ oid, critical := extension.critical, value := octets }, ?_, fun fits => ?_⟩
  · rw [reachable.toEnvelope, fresh]
    rfl
  · refine (ofEnvelope_of_oid _ extension.critical octets).trans ?_
    rw [parse, read_number (readValue_of_coded coded subject fits),
      sendable.keptCritical_eq reachable]
    split
    · rw [← present]
      rfl
    · rfl

/-! ### The two kinds -/

/-- The two kinds of numbers are kinds of numbers whose extensions can be sent. -/
theorem exists_number {profile : ExtensionProfile (Option Int)}
    (kind : profile ∈ [crlNumber, deltaCrlIndicator]) :
    ∃ oid subject name label alwaysCritical,
      profile = number oid subject name label alwaysCritical ∧ profile.Sendable := by
  rcases List.mem_pair.1 kind with rfl | rfl
  · exact ⟨_, _, _, _, _, rfl, sendable_crlNumber⟩
  · exact ⟨_, _, _, _, _, rfl, sendable_deltaCrlIndicator⟩

/-- **When the number of a list is in range, and when it is read again.** What was read is in range.
A number is in range all through a run exactly if it is so before, and every number that the run
gives is in range. After a run, any number is sent, and read again exactly if it is in range. -/
theorem number_inRange_iff {profile : ExtensionProfile (Option Int)}
    (kind : profile ∈ [crlNumber, deltaCrlIndicator]) {extension : TypedExtension (Option Int)}
    (reachable : profile.Reachable extension) (requests : List Request) :
    (∀ critical octets, profile.parse critical octets = .ok extension →
      InRange extension.content) ∧
    ((∀ before, before <+: requests → InRange (profile.run extension before).content) ↔
      InRange extension.content ∧ ∀ attr value, profile.attributes.isNamed attr = true →
        .attr (.set attr (.integer value)) ∈ requests → 0 ≤ value) ∧
    ∀ value, (profile.run extension requests).content = some value →
      ∃ envelope, (profile.toEnvelope (profile.run extension requests)).1 = .ok envelope ∧
        (envelope.value.length < Length.bound →
          profile.ofEnvelope envelope =
            if 0 ≤ value then .ok { profile.run extension requests with cache := .empty }
            else .error (.outOfRange profile.subject .number)) := by
  obtain ⟨oid, subject, name, label, alwaysCritical, rfl, sendable⟩ := exists_number kind
  refine ⟨fun critical octets read => ?_, forall_inRange_run_iff extension requests,
    fun value present => ofEnvelope_toEnvelope sendable (reachable.run requests) present⟩
  obtain ⟨content, found, rfl⟩ := parse_eq_ok_iff.1 read
  exact inRange_of_read found

/-- The number of an extended list that was read and then given another is in range and read again.
A negative number that a list was made with is neither. -/
theorem number_inRange_iff_sides :
    let five : TypedExtension (Option Int) := ⟨true, some 5, .empty⟩
    let requests := [.value, .attr (.set "VALUE" (.integer 128)), .envelope]
    let negative := crlNumber.make (some (-1))
    deltaCrlIndicator.parse false [0x02, 0x01, 0x05] = .ok five ∧
      (∀ before, before <+: requests → InRange (deltaCrlIndicator.run five before).content) ∧
      deltaCrlIndicator.ofEnvelope ⟨⟨[2, 5, 29, 27]⟩, true, [0x02, 0x02, 0x00, 0x80]⟩ =
        .ok ⟨true, some 128, .empty⟩ ∧
      ¬ InRange negative.content ∧
      crlNumber.ofEnvelope ⟨⟨[2, 5, 29, 20]⟩, false, [0x02, 0x01, 0xff]⟩ =
        .error (.outOfRange .crlNumber .number) := by
  intro five requests negative
  have read : deltaCrlIndicator.parse false [0x02, 0x01, 0x05] = .ok five := by decide +kernel
  obtain ⟨start, all, sent⟩ := number_inRange_iff (.tail _ (.head _)) (.parsed read) requests
  obtain ⟨-, -, refused⟩ := number_inRange_iff (.head _) (.made (some (-1))) []
  have natural : ∀ attr value, deltaCrlIndicator.attributes.isNamed attr = true →
      .attr (.set attr (.integer value)) ∈ requests → 0 ≤ value := by
    intro attr value _ member
    obtain ⟨-, rfl⟩ : attr = "VALUE" ∧ value = 128 := by simpa [requests] using member
    decide
  refine ⟨read, all.2 ⟨start _ _ read, natural⟩, ?_, fun inRange => ?_, ?_⟩
  · obtain ⟨envelope, packed, again⟩ := sent 128 (by decide +kernel)
    have same : (deltaCrlIndicator.toEnvelope (deltaCrlIndicator.run five requests)).1 =
        .ok ⟨⟨[2, 5, 29, 27]⟩, true, [0x02, 0x02, 0x00, 0x80]⟩ := by decide +kernel
    obtain rfl := Except.ok.inj (packed.symm.trans same)
    rw [again (by decide), if_pos (by decide)]
    decide +kernel
  · exact absurd (inRange (-1) rfl) (by decide)
  · obtain ⟨envelope, packed, again⟩ := refused (-1) rfl
    have same : (crlNumber.toEnvelope negative).1 =
        .ok ⟨⟨[2, 5, 29, 20]⟩, false, [0x02, 0x01, 0xff]⟩ := by decide +kernel
    obtain rfl := Except.ok.inj (packed.symm.trans same)
    exact again (by decide)

/-- **A list takes a negative number, sends it and refuses to read it again.** -/
theorem crlNumber_negative :
    let before := crlNumber.make (some 5)
    let request := AttributeSet.Request.set "value" (.integer (-1))
    let after := crlNumber.attributes.after request before
    let envelope : Envelope := ⟨⟨[2, 5, 29, 20]⟩, false, [0x02, 0x01, 0xff]⟩
    crlNumber.attributes.answer request before = .ok none ∧
      crlNumber.attributes.getNamed "value" after = .ok (some (.integer (-1))) ∧
      (crlNumber.toEnvelope after).1 = .ok envelope ∧
      crlNumber.ofEnvelope envelope = .error (.outOfRange .crlNumber .number) ∧
      ¬ ∀ extension, crlNumber.Reachable extension → InRange extension.content := by
  intro before request after envelope
  refine ⟨rfl, rfl, by decide +kernel, by decide +kernel, fun inRange => ?_⟩
  have reachable : crlNumber.Reachable after := (Reachable.made _).after (.attr request)
  exact absurd (inRange after reachable (-1) rfl) (by decide)

end X509.ExtensionProfile
