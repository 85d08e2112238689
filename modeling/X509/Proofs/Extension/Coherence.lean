/-
**Coherent caches over whole runs.**

A newly made extension and one that was read have an empty cache. A request for octets fills an
empty cache with the encoding of the content; a change drops what the cache holds before it encodes
the new content, so a failed encoding leaves the cache empty. Hence the cache is coherent in every
reachable extension, and a run of requests is answered as by an extension without a cache.

* `ExtensionProfile.Coherent.after` — a request keeps the cache coherent.
* `ExtensionProfile.Reachable.coherent` — so it is in every reachable extension.
* `ExtensionProfile.answers_of_coherent` — a run is answered as without a cache.
* `ExtensionProfile.Reachable.critical_cases` — where the flag of an extension comes from.
* `ExtensionProfile.cacheLaws` — the laws hold of every kind that tells the types of values apart.
* `ExtensionProfile.cache_coherent_over_runs` — the five kinds are such kinds.
-/

import X509.Extension.Kinds
import X509.Proofs.Extension.Asked
import X509.Proofs.Extension.Uncached
import X509.Proofs.Outcome

namespace X509.ExtensionProfile

variable {Content : Type} {profile : ExtensionProfile Content}

/-! ### One request -/

theorem coherent_of_isEmpty {extension : TypedExtension Content}
    (empty : extension.cache = .empty) : profile.Coherent extension := by
  intro octets held
  rw [empty] at held
  cases held

theorem coherent_make (content : Content) : profile.Coherent (profile.make content) :=
  coherent_of_isEmpty rfl

/-- An extension is read when its content is, and has an empty cache. -/
theorem parse_eq_ok_iff {critical : Bool} {octets : Octets} {extension : TypedExtension Content} :
    profile.parse critical octets = .ok extension ↔ ∃ content, profile.read octets = .ok content ∧
      extension = { critical := profile.keptCritical critical, content, cache := .empty } := by
  refine Except.bind_eq_ok_iff.trans (exists_congr fun content => and_congr_right fun _ => ?_)
  exact ⟨fun same => (Except.ok.inj same).symm, fun same => congrArg Except.ok same.symm⟩

theorem coherent_of_parse {critical : Bool} {octets : Octets} {extension : TypedExtension Content}
    (read : profile.parse critical octets = .ok extension) : profile.Coherent extension := by
  obtain ⟨content, _, rfl⟩ := parse_eq_ok_iff.1 read
  exact coherent_of_isEmpty rfl

/-- A request for octets keeps a full cache, and fills an empty one with a fresh encoding. -/
theorem Coherent.value {extension : TypedExtension Content}
    (coherent : profile.Coherent extension) : profile.Coherent (profile.value extension).2 := by
  intro octets held
  rw [content_value]
  cases before : extension.cache.octets? with
  | some kept =>
    simp only [ExtensionProfile.value, ValueCache.ask_of_filled before] at held
    exact coherent octets held
  | none =>
    simp only [ExtensionProfile.value, ValueCache.ask, before] at held
    split at held
    · next fresh =>
      rw [fresh]
      exact congrArg Except.ok held
    · rw [before] at held
      cases held
    · rw [before] at held
      cases held

/-- **A change leaves a coherent cache, whatever it found and whether or not it succeeds.** -/
theorem coherent_assign (extension : TypedExtension Content) (content : Content) :
    profile.Coherent (profile.assign extension content).2 := by
  intro octets held
  rw [content_assign]
  cases encoded : profile.encode content with
  | ok octets? =>
    simp only [assign, ValueCache.refresh, encoded] at held
    rw [held]
  | error fault =>
    rw [assign, ValueCache.refresh_of_error encoded] at held
    cases held

/-- **A request keeps the cache coherent.** -/
theorem Coherent.after {extension : TypedExtension Content}
    (coherent : profile.Coherent extension) (request : Request) :
    profile.Coherent (profile.after extension request) := by
  cases request with
  | value => exact coherent.value
  | envelope => exact coherent.value
  | attr request =>
    cases asked : profile.asked? request with
    | none =>
      rw [ExtensionProfile.after, after_of_asked?_eq_none asked]
      exact coherent
    | some content =>
      rw [ExtensionProfile.after, (after_of_asked?_eq_some asked extension).2]
      exact coherent_assign extension content

/-! ### Runs of requests -/

/-- **The cache is coherent in every reachable extension.** -/
theorem Reachable.coherent {extension : TypedExtension Content}
    (reachable : profile.Reachable extension) : profile.Coherent extension := by
  induction reachable with
  | made content => exact coherent_make content
  | parsed read => exact coherent_of_parse read
  | after _ request ih => exact ih.after request

/-- **A run is answered as without a cache.** -/
theorem answers_of_coherent {extension : TypedExtension Content}
    (coherent : profile.Coherent extension) (requests : List Request) :
    profile.answers extension requests = profile.bareAnswers extension.bare requests := by
  -- the induction is on the requests; both sides move to extensions that differ by the cache only
  induction requests generalizing extension with
  | nil => rfl
  | cons request requests ih =>
    rw [answers, bareAnswers, answer_of_coherent coherent, ih (coherent.after request), bare_after]

/-- **The flag of a reachable extension is that of a newly made one, or was kept when it was
read.** -/
theorem Reachable.critical_cases {extension : TypedExtension Content}
    (reachable : profile.Reachable extension) :
    extension.critical = profile.critical ∨
      ∃ flag, extension.critical = profile.keptCritical flag := by
  induction reachable with
  | made content => exact .inl rfl
  | parsed read =>
    obtain ⟨content, _, rfl⟩ := parse_eq_ok_iff.1 read
    exact .inr ⟨_, rfl⟩
  | after _ request ih =>
    rw [critical_after]
    exact ih

/-- What was made critical, or read so, is so in every reachable extension. -/
theorem Reachable.critical_eq_true {extension : TypedExtension Content}
    (made : profile.critical = true) (kept : ∀ flag, profile.keptCritical flag = true)
    (reachable : profile.Reachable extension) : extension.critical = true := by
  rcases reachable.critical_cases with same | ⟨flag, same⟩
  · rw [same, made]
  · rw [same, kept]

/-! ### Laws of the cache -/

/-- Whether the attribute takes the values of one type, the one that its faults name. -/
def TellsTypes (profile : ExtensionProfile Content) : Prop :=
  ∀ value : FieldValue, profile.put? value = none ↔ value.typeName ≠ profile.expected

/-- What a cache must not change about the extensions of a kind, over all runs of requests. -/
structure CacheLaws (profile : ExtensionProfile Content) : Prop where
  /-- The cache holds nothing, or the encoding of the content. -/
  coherent {extension : TypedExtension Content} (reachable : profile.Reachable extension) :
    extension.cache.octets? = none ∨
      ∃ octets, extension.cache.octets? = some octets ∧
        profile.encode extension.content = .ok (some octets)
  /-- Requests are answered as by an extension without a cache. -/
  answers {extension : TypedExtension Content} (reachable : profile.Reachable extension)
    (requests : List Request) :
    profile.answers extension requests = profile.bareAnswers extension.bare requests
  /-- A value for an unknown name is rejected, and nothing changes. -/
  set_unknown {name : String} (other : profile.attributes.isNamed name = false)
    (value : FieldValue) (extension : TypedExtension Content) :
    profile.attributes.setNamed name value extension =
      (.error (.unknownAttribute profile.subject name), extension)
  /-- An unknown name cannot be taken away, and nothing changes. -/
  delete_unknown {name : String} (other : profile.attributes.isNamed name = false)
    (extension : TypedExtension Content) :
    profile.attributes.deleteNamed name extension =
      (.error (.unknownAttribute profile.subject name), extension)
  /-- A value of another type is rejected, and nothing changes. -/
  set_mistyped {name : String} {value : FieldValue}
    (named : profile.attributes.isNamed name = true)
    (mistyped : value.typeName ≠ profile.expected) (extension : TypedExtension Content) :
    profile.attributes.setNamed name value extension =
      (.error (.attributeType profile.subject profile.attr profile.expected), extension)
  /-- No run changes whether the extension is critical. -/
  critical (extension : TypedExtension Content) (requests : List Request) :
    (profile.run extension requests).critical = extension.critical

theorem setNamed_of_mistyped {name : String} {value : FieldValue}
    (named : profile.attributes.isNamed name = true) (mistyped : profile.put? value = none)
    (extension : TypedExtension Content) :
    profile.attributes.setNamed name value extension =
      (.error (.attributeType profile.subject profile.attr profile.expected), extension) := by
  rw [AttributeSet.setNamed, if_pos named]
  simp only [attributes, mistyped]

/-- **The laws hold of every kind that tells the types of values apart.** -/
theorem cacheLaws (tells : profile.TellsTypes) : profile.CacheLaws where
  coherent {extension} reachable := by
    cases held : extension.cache.octets? with
    | none => exact .inl rfl
    | some octets => exact .inr ⟨octets, rfl, reachable.coherent octets held⟩
  answers reachable requests := answers_of_coherent reachable.coherent requests
  set_unknown other value extension := AttributeSet.setNamed_of_unknown other value extension
  delete_unknown other extension := AttributeSet.deleteNamed_of_unknown other extension
  set_mistyped named mistyped extension :=
    setNamed_of_mistyped named ((tells _).2 mistyped) extension
  critical extension requests := profile.critical_run extension requests

/-! ### The five kinds -/

theorem tellsTypes_subjectKeyIdentifier : subjectKeyIdentifier.TellsTypes := by
  intro value
  cases value <;> simp [subjectKeyIdentifier, FieldValue.typeName]

theorem tellsTypes_certificateIssuer : certificateIssuer.TellsTypes := by
  intro value
  cases value <;> simp [certificateIssuer, FieldValue.typeName]

theorem tellsTypes_crlReasonCode : crlReasonCode.TellsTypes := by
  intro value
  cases value <;> simp [crlReasonCode, FieldValue.typeName]

theorem tellsTypes_number (oid : ObjectIdentifier) (subject : Subject) (name label : String)
    (alwaysCritical : Bool) : (number oid subject name label alwaysCritical).TellsTypes := by
  intro value
  cases value <;> simp [number, FieldValue.typeName]

/-- **Caches stay coherent over every run of every kind, and an extended list's number stays
critical.** -/
theorem cache_coherent_over_runs :
    subjectKeyIdentifier.CacheLaws ∧ certificateIssuer.CacheLaws ∧ crlReasonCode.CacheLaws ∧
      crlNumber.CacheLaws ∧ deltaCrlIndicator.CacheLaws ∧
      ∀ extension, deltaCrlIndicator.Reachable extension → extension.critical = true := by
  refine ⟨cacheLaws tellsTypes_subjectKeyIdentifier, cacheLaws tellsTypes_certificateIssuer,
    cacheLaws tellsTypes_crlReasonCode, cacheLaws (tellsTypes_number _ _ _ _ _),
    cacheLaws (tellsTypes_number _ _ _ _ _), ?_⟩
  intro extension reachable
  exact reachable.critical_eq_true rfl fun flag => Bool.or_true flag

/-- The number of an extended list is critical although it was read as one that is not, and refuses
a reason. An issuer that cannot be written empties the cache, and taking it away gives no octets. -/
theorem cache_coherent_over_runs_unwritable :
    let five : TypedExtension (Option Int) := ⟨true, some 5, .empty⟩
    deltaCrlIndicator.parse false [0x02, 0x01, 0x05] = .ok five ∧ five.critical = true ∧
      deltaCrlIndicator.attributes.setNamed "Value" (.reason .keyCompromise) five =
        (.error (.attributeType .deltaCrlIndicator "value" "Integer"), five) ∧
      certificateIssuer.answers (certificateIssuer.make ⟨[.dnsName "a.b"]⟩)
          [.value, .attr (.set "ISSUER" (.generalNames ⟨[.dnsName "é"]⟩)), .value,
            .attr (.delete "issuer"), .value] =
        [.value (.ok [0x30, 0x05, 0x82, 0x03, 0x61, 0x2e, 0x62]),
          .attr (.error (.invalidIa5 .dns)), .value (.error (.invalidIa5 .dns)),
          .attr (.ok none), .value (.ok [])] := by
  intro five
  obtain ⟨-, issuer, -, -, delta, critical⟩ := cache_coherent_over_runs
  have read : deltaCrlIndicator.parse false [0x02, 0x01, 0x05] = .ok five := by
    decide +kernel
  refine ⟨read, critical five (.parsed read), ?_, ?_⟩
  · exact delta.set_mistyped (by decide) (by decide) five
  · rw [issuer.answers (.made _)]
    rfl

end X509.ExtensionProfile
