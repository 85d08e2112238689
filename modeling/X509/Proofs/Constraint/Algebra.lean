/-
**The algebra of name constraints.**

The relation of a name to a subtree is read off the forms: names of two forms are unrelated, five
forms have a lawful comparison, and the other four know equality and refuse everything else. So the
relation is `same` for a name and itself, turns round when the names change places, and takes same
names for one. Narrowing is transitive for the four forms whose containment is; hosts of resources
are the exception.

* `GeneralName.constrains_self`, `GeneralName.constrains_swap`, `GeneralName.constrains_congr` — the
  three laws.
* `GeneralName.constrains_laws` — what they say of every outcome.
* `GeneralName.constrains_narrows_trans` — subtrees of subtrees.
-/

import X509.Proofs.Constraint.Forms
import X509.Proofs.Outcome

namespace X509

open NameRelation (Lawful lawful_between between_narrows_trans)

/-! ### The forms with subtrees -/

/-- Whether names of a form have subtrees; names of the others are equal or nothing. -/
def NameKind.hasSubtrees : NameKind → Bool
  | .dns | .rfc822 | .uri | .ipAddress | .directory => true
  | _ => false

/-- **How the names of one form are compared:** by a lawful relation of what they carry. -/
structure Comparison (kind : NameKind) where
  Carried : Type
  name : Carried → GeneralName
  relation : Carried → Carried → NameRelation
  lawful : Lawful relation
  constrains_name (one two : Carried) :
    (name one).constrains (some (name two)) = .ok (relation one two)
  exists_name {whole : GeneralName} (form : whole.kind = kind) : ∃ carried, name carried = whole

namespace Comparison

/-- The comparison of domains. -/
def dns : Comparison .dns where
  Carried := String
  name := .dnsName
  relation one two := domainRelation one.toList two.toList
  lawful :=
    Lawful.comap (domainRelation_eq_between ▸ lawful_between domain_isContainment) String.toList
  constrains_name _ _ := rfl
  exists_name {whole} form := match whole, form with
    | .dnsName domain, _ => ⟨domain, rfl⟩

/-- The comparison of mailboxes. -/
def rfc822 : Comparison .rfc822 where
  Carried := String
  name := .rfc822Name
  relation one two := mailboxRelation one.toList two.toList
  lawful :=
    Lawful.comap (mailboxRelation_eq_between ▸ lawful_between mailbox_isContainment) String.toList
  constrains_name _ _ := rfl
  exists_name {whole} form := match whole, form with
    | .rfc822Name mailbox, _ => ⟨mailbox, rfl⟩

/-- The comparison of resources. -/
def uri : Comparison .uri where
  Carried := String
  name := .uri
  relation one two := uriRelation one.toList two.toList
  lawful :=
    Lawful.comap (uriRelation_eq_between ▸ lawful_between resource_isContainment) String.toList
  constrains_name _ _ := rfl
  exists_name {whole} form := match whole, form with
    | .uri text, _ => ⟨text, rfl⟩

/-- The comparison of ranges of addresses. -/
def ipAddress : Comparison .ipAddress where
  Carried := AddressRange
  name := .ipAddress
  relation := AddressRange.relation
  lawful := rangeRelation_eq_between ▸ lawful_between range_isContainment
  constrains_name _ _ := rfl
  exists_name {whole} form := match whole, form with
    | .ipAddress range, _ => ⟨range, rfl⟩

/-- The comparison of directory names. -/
def directory : Comparison .directory where
  Carried := Name
  name := .directoryName
  relation := Name.relation
  lawful := directoryRelation_eq_between ▸ lawful_between directory_isContainment
  constrains_name _ _ := rfl
  exists_name {whole} form := match whole, form with
    | .directoryName name, _ => ⟨name, rfl⟩

/-- The comparison of a form that has subtrees. -/
def ofKind : (kind : NameKind) → kind.hasSubtrees = true → Comparison kind
  | .dns, _ => dns
  | .rfc822, _ => rfc822
  | .uri, _ => uri
  | .ipAddress, _ => ipAddress
  | .directory, _ => directory

end Comparison

namespace GeneralName

variable {one two : GeneralName}

/-! ### Forms -/

theorem constrains_of_kind_ne (kinds : one.kind ≠ two.kind) :
    one.constrains (some two) = .ok .differentType := by
  cases one <;> cases two <;> first | exact absurd rfl kinds | rfl

theorem constrains_of_no_subtrees (plain : one.kind.hasSubtrees = false)
    (kinds : one.kind = two.kind) :
    one.constrains (some two) =
      if one = two then .ok .same else .error (.unsupported one.kind .constrains) := by
  cases one with
  | otherName | x400Address | ediPartyName | registeredId => exact if_pos kinds
  | _ => cases plain

/-- A relation other than that of two forms is one between names of one form. -/
theorem kind_eq_of_constrains {relation : NameRelation}
    (related : one.constrains (some two) = .ok relation) (form : relation ≠ .differentType) :
    one.kind = two.kind := by
  by_cases kinds : one.kind = two.kind
  · exact kinds
  · rw [constrains_of_kind_ne kinds] at related
    exact absurd (Except.ok.inj related).symm form

/-! ### The three laws -/

/-- **A name is the same as itself.** -/
theorem constrains_self (name : GeneralName) : name.constrains (some name) = .ok .same := by
  cases subtrees : name.kind.hasSubtrees with
  | false => rw [constrains_of_no_subtrees subtrees rfl, if_pos rfl]
  | true =>
    let comparison := Comparison.ofKind name.kind subtrees
    obtain ⟨carried, whole⟩ := comparison.exists_name rfl
    rw [← whole, comparison.constrains_name, comparison.lawful.self]

/-- **Names that change places turn their relation round.** -/
theorem constrains_swap (one two : GeneralName) :
    two.constrains (some one) = (one.constrains (some two)).map NameRelation.converse := by
  by_cases kinds : one.kind = two.kind
  · cases subtrees : one.kind.hasSubtrees with
    | false =>
      rw [constrains_of_no_subtrees subtrees kinds,
        constrains_of_no_subtrees (kinds ▸ subtrees) kinds.symm, kinds]
      by_cases same : one = two
      · rw [if_pos same, if_pos same.symm]
        rfl
      · rw [if_neg same, if_neg (Ne.symm same)]
        rfl
    | true =>
      let comparison := Comparison.ofKind one.kind subtrees
      obtain ⟨first, whole⟩ := comparison.exists_name rfl
      obtain ⟨second, whole'⟩ := comparison.exists_name kinds.symm
      rw [← whole, ← whole', comparison.constrains_name, comparison.constrains_name,
        ← comparison.lawful.converse]
      rfl
  · rw [constrains_of_kind_ne kinds, constrains_of_kind_ne (Ne.symm kinds)]
    rfl

/-- **Same names are one name to every other.** -/
theorem constrains_congr (same : one.constrains (some two) = .ok .same) (three : GeneralName) :
    one.constrains (some three) = two.constrains (some three) := by
  have form : one.kind = two.kind := kind_eq_of_constrains same nofun
  by_cases kinds : two.kind = three.kind
  · cases subtrees : one.kind.hasSubtrees with
    | false =>
      rw [constrains_of_no_subtrees subtrees form] at same
      by_cases equal : one = two
      · rw [equal]
      · rw [if_neg equal] at same
        cases same
    | true =>
      let comparison := Comparison.ofKind one.kind subtrees
      obtain ⟨first, whole⟩ := comparison.exists_name rfl
      obtain ⟨second, whole'⟩ := comparison.exists_name form.symm
      obtain ⟨third, whole''⟩ := comparison.exists_name (form.trans kinds).symm
      rw [← whole, ← whole', comparison.constrains_name] at same
      rw [← whole, ← whole', ← whole'', comparison.constrains_name, comparison.constrains_name,
        comparison.lawful.congr (Except.ok.inj same)]
  · rw [constrains_of_kind_ne kinds, constrains_of_kind_ne (form ▸ kinds)]

theorem constrains_eq_ok_iff (relation : NameRelation) :
    one.constrains (some two) = .ok relation ↔
      two.constrains (some one) = .ok relation.converse := by
  rw [constrains_swap one two, Except.map_eq_ok_iff]
  constructor
  · intro related
    exact ⟨relation, related, rfl⟩
  · rintro ⟨other, related, turned⟩
    rw [related, NameRelation.converse_eq_iff.1 turned, NameRelation.converse_converse]

theorem constrains_eq_error_iff {fault : ContentError} :
    one.constrains (some two) = .error fault ↔ two.constrains (some one) = .error fault := by
  rw [constrains_swap one two]
  cases one.constrains (some two) with
  | error other => exact Iff.rfl
  | ok relation => exact ⟨nofun, nofun⟩

/-- **The relation of names is the same for a name and itself, turns round with the names, refuses
both orders or neither, and takes same names for one.** -/
theorem constrains_laws (one two three : GeneralName) :
    one.constrains (some one) = .ok .same ∧
      (one.constrains (some two) = .ok .narrows ↔ two.constrains (some one) = .ok .widens) ∧
      (one.constrains (some two) = .ok .same ↔ two.constrains (some one) = .ok .same) ∧
      (one.constrains (some two) = .ok .sameType ↔ two.constrains (some one) = .ok .sameType) ∧
      (one.constrains (some two) = .ok .differentType ↔
        two.constrains (some one) = .ok .differentType) ∧
      (∀ kind operation, one.constrains (some two) = .error (.unsupported kind operation) ↔
        two.constrains (some one) = .error (.unsupported kind operation)) ∧
      (one.constrains (some two) = .ok .same → two.constrains (some three) = .ok .same →
        one.constrains (some three) = .ok .same) ∧
      (one.constrains (some two) = .ok .same →
        one.constrains (some three) = two.constrains (some three) ∧
          three.constrains (some one) = three.constrains (some two)) := by
  refine ⟨constrains_self one, constrains_eq_ok_iff .narrows, constrains_eq_ok_iff .same,
    constrains_eq_ok_iff .sameType, constrains_eq_ok_iff .differentType,
    fun _ _ => constrains_eq_error_iff, ?_, ?_⟩
  · intro outer inner
    rw [constrains_congr outer, inner]
  · intro same
    have front := constrains_congr same three
    refine ⟨front, ?_⟩
    rw [constrains_swap one three, constrains_swap two three, front]

/-- Two networks that differ in a host bit, and an address in both. -/
theorem constrains_laws_host_bits :
    let one := GeneralName.ipAddress (.network (.v4 ⟨0x0a000001, 8, by decide⟩))
    let two := GeneralName.ipAddress (.network (.v4 ⟨0x0a010000, 8, by decide⟩))
    let three := GeneralName.ipAddress (.address (.v4 0x0a020304))
    one.constrains (some two) = .ok .same ∧ two.constrains (some three) = .ok .narrows ∧
      one.constrains (some three) = .ok .narrows ∧ three.constrains (some two) = .ok .widens := by
  intro one two three
  have same : one.constrains (some two) = .ok .same := congrArg Except.ok (by decide)
  have inside : two.constrains (some three) = .ok .narrows := congrArg Except.ok (by decide)
  obtain ⟨-, -, -, -, -, -, -, congr⟩ := constrains_laws one two three
  obtain ⟨-, turned, -⟩ := constrains_laws two three one
  refine ⟨same, inside, ?_, turned.1 inside⟩
  rw [(congr same).1, inside]

/-! ### Narrowing -/

/-- The forms of which a subtree of a subtree is a subtree. -/
theorem exists_comparison_trans {kind : NameKind}
    (form : kind ∈ [.dns, .rfc822, .directory, .ipAddress]) :
    ∃ comparison : Comparison kind, ∀ one two three : comparison.Carried,
      comparison.relation one two = .narrows → comparison.relation two three = .narrows →
        comparison.relation one three = .narrows := by
  simp only [List.mem_cons, List.not_mem_nil, or_false] at form
  rcases form with rfl | rfl | rfl | rfl
  · refine ⟨.dns, fun one two three => ?_⟩
    show domainRelation _ _ = _ → domainRelation _ _ = _ → domainRelation _ _ = _
    rw [domainRelation_eq_between]
    exact between_narrows_trans domain_isContainment domainContains_trans
  · refine ⟨.rfc822, fun one two three => ?_⟩
    show mailboxRelation _ _ = _ → mailboxRelation _ _ = _ → mailboxRelation _ _ = _
    rw [mailboxRelation_eq_between]
    exact between_narrows_trans mailbox_isContainment mailboxContains_trans
  · refine ⟨.directory, fun one two three => ?_⟩
    show Name.relation _ _ = _ → Name.relation _ _ = _ → Name.relation _ _ = _
    rw [directoryRelation_eq_between]
    exact between_narrows_trans directory_isContainment directoryReaches_trans
  · refine ⟨.ipAddress, fun one two three => ?_⟩
    show AddressRange.relation _ _ = _ → AddressRange.relation _ _ = _ →
      AddressRange.relation _ _ = _
    rw [rangeRelation_eq_between]
    exact between_narrows_trans range_isContainment AddressRange.contains_trans

/-- **A subtree of a subtree is a subtree,** for domains, mailboxes, directory names and
addresses. -/
theorem constrains_narrows_trans {one two three : GeneralName}
    (form : one.kind ∈ [.dns, .rfc822, .directory, .ipAddress])
    (outer : one.constrains (some two) = .ok .narrows)
    (inner : two.constrains (some three) = .ok .narrows) :
    one.constrains (some three) = .ok .narrows := by
  have kinds : one.kind = two.kind := kind_eq_of_constrains outer nofun
  have kinds' : two.kind = three.kind := kind_eq_of_constrains inner nofun
  obtain ⟨comparison, trans⟩ := exists_comparison_trans form
  obtain ⟨first, whole⟩ := comparison.exists_name rfl
  obtain ⟨second, whole'⟩ := comparison.exists_name kinds.symm
  obtain ⟨third, whole''⟩ := comparison.exists_name (kinds.trans kinds').symm
  rw [← whole, ← whole', comparison.constrains_name] at outer
  rw [← whole', ← whole'', comparison.constrains_name] at inner
  rw [← whole, ← whole'', comparison.constrains_name,
    trans first second third (Except.ok.inj outer) (Except.ok.inj inner)]

/-- A domain with a dot, one without and one below both. -/
theorem constrains_narrows_trans_dotted :
    let one := GeneralName.dnsName ".com"
    let two := GeneralName.dnsName "EXAMPLE.com"
    let three := GeneralName.dnsName "www.Example.com"
    one.constrains (some two) = .ok .narrows ∧ two.constrains (some three) = .ok .narrows ∧
      one.constrains (some three) = .ok .narrows := by
  intro one two three
  have outer : one.constrains (some two) = .ok .narrows := congrArg Except.ok (by decide +kernel)
  have inner : two.constrains (some three) = .ok .narrows := congrArg Except.ok (by decide +kernel)
  exact ⟨outer, inner, constrains_narrows_trans (by decide) outer inner⟩

end GeneralName

end X509
