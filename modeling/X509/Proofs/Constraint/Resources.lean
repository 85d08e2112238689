/-
**Subtrees of resources.**

Hosts have subtrees of two kinds. That of a domain with a dot holds the hosts and the domains below
it; that of a host without one holds the domains with a dot at it and below it, but no host. So the
subtree of a host reaches a domain with a dot, and that domain reaches hosts which the first host
does not. Between all other ends a subtree of a subtree is a subtree.

* `hostReaches_of_reaches` — what a chain of two hosts comes to.
* `GeneralName.constrains_uri_of_chain` — the same for resources.
* `GeneralName.constrains_uri_not_trans` — narrowing is not transitive for resources.
-/

import X509.GeneralName.Codec
import X509.Proofs.Constraint.Algebra

namespace X509

open NameRelation (between between_eq_narrows_iff)

/-! ### Hosts -/

/-- A host contains another when their domains do and one of the two has a dot; of the same domain,
the host without the dot contains the one with it. -/
theorem hostReaches_iff {outer inner : List Char} :
    hostReaches outer inner = true ↔
      isAddress outer = false ∧ isAddress inner = false ∧
        (foldCase (dropDot outer) = foldCase (dropDot inner) ∧
            startsWithDot outer = false ∧ startsWithDot inner = true ∨
          foldCase (dropDot outer) ≠ foldCase (dropDot inner) ∧
            (startsWithDot outer || startsWithDot inner) = true ∧
            domainReaches (dropDot outer) (dropDot inner) = true) := by
  rw [hostReaches, Bool.and_eq_true, Bool.and_eq_true, Bool.not_eq_true', Bool.not_eq_true',
    and_assoc]
  by_cases same : foldCase (dropDot outer) = foldCase (dropDot inner)
  · simp [same]
  · simp [same]

/-- **Along a chain of hosts the domains contain each other,** and those at its ends differ. -/
theorem domainReaches_of_hostReaches {one two three : List Char}
    (outer : hostReaches one two = true) (inner : hostReaches two three = true) :
    foldCase (dropDot one) ≠ foldCase (dropDot three) ∧
      domainReaches (dropDot one) (dropDot three) = true := by
  obtain ⟨-, -, outer⟩ := hostReaches_iff.1 outer
  obtain ⟨-, -, inner⟩ := hostReaches_iff.1 inner
  rcases outer with ⟨same, -, dotted⟩ | ⟨differs, -, reaches⟩
  · -- the host in the middle has a dot, so its domain is not the last one
    rcases inner with ⟨-, bare, -⟩ | ⟨differs', -, reaches'⟩
    · exact absurd (bare.symm.trans dotted) Bool.false_ne_true
    · rw [domain_isContainment.congr same rfl]
      exact ⟨fun ends => differs' (same.symm.trans ends), reaches'⟩
  · rcases inner with ⟨same', -, -⟩ | ⟨differs', -, reaches'⟩
    · rw [← domain_isContainment.congr rfl same']
      exact ⟨fun ends => differs (ends.trans same'.symm), reaches⟩
    · refine ⟨fun ends => ?_, domainContains_trans reaches reaches'⟩
      have back : domainReaches (dropDot two) (dropDot one) = true := by
        rw [domain_isContainment.congr rfl ends, reaches']
      exact differs (domain_isContainment.antisymm reaches back)

/-- **The ends of a chain of hosts contain each other if one of them has a dot,** and only in the
order of the chain. -/
theorem hostReaches_of_reaches {one two three : List Char} (outer : hostReaches one two = true)
    (inner : hostReaches two three = true) :
    hostReaches one three = (startsWithDot one || startsWithDot three) ∧
      hostReaches three one = false := by
  obtain ⟨differs, reaches⟩ := domainReaches_of_hostReaches outer inner
  obtain ⟨plain, -, -⟩ := hostReaches_iff.1 outer
  obtain ⟨-, plain', -⟩ := hostReaches_iff.1 inner
  have back : domainReaches (dropDot three) (dropDot one) = false := by
    refine Bool.eq_false_iff.2 fun returns => differs ?_
    exact domain_isContainment.antisymm reaches returns
  rw [hostReaches_of_hosts plain plain', hostReaches_of_hosts plain' plain, if_neg differs,
    if_neg (Ne.symm differs), reaches, back, Bool.and_true, Bool.and_false]
  exact ⟨rfl, rfl⟩

/-- The relation of the ends of a chain of hosts. -/
theorem hostRelation_of_reaches {one two three : List Char} (outer : hostReaches one two = true)
    (inner : hostReaches two three = true) :
    hostRelation one three =
      if startsWithDot one || startsWithDot three then .narrows else .sameType := by
  obtain ⟨differs, -⟩ := domainReaches_of_hostReaches outer inner
  obtain ⟨reaches, back⟩ := hostReaches_of_reaches outer inner
  have keys : foldCase one ≠ foldCase three := fun same => by
    rw [← dropDot_foldCase, ← dropDot_foldCase, same] at differs
    exact differs rfl
  rw [hostRelation_eq_between, between, beq_eq_false_iff_ne.2 keys, reaches, back]
  rfl

/-! ### Resources -/

/-- Only resources with hosts contain each other. -/
theorem exists_hosts_of_uriRelation {one two : List Char}
    (narrows : uriRelation one two = .narrows) :
    ∃ host host', Uri.host? one = some host ∧ Uri.host? two = some host' ∧
      hostReaches host host' = true := by
  rw [uriRelation_eq_between, between_eq_narrows_iff] at narrows
  have reaches := narrows.2
  unfold resourceReaches at reaches
  split at reaches
  · next host host' here there => exact ⟨host, host', here, there, reaches⟩
  · cases reaches

namespace GeneralName

/-- **A subtree of a subtree of a resource is a subtree if one of the hosts at the ends starts with
a dot.** If neither does, the two resources are unrelated. -/
theorem constrains_uri_of_chain {one two three : String}
    (outer : (GeneralName.uri one).constrains (some (.uri two)) = .ok .narrows)
    (inner : (GeneralName.uri two).constrains (some (.uri three)) = .ok .narrows) :
    ∃ host host', Uri.host? one.toList = some host ∧ Uri.host? three.toList = some host' ∧
      (GeneralName.uri one).constrains (some (.uri three)) =
        .ok (if startsWithDot host || startsWithDot host' then .narrows else .sameType) := by
  obtain ⟨host, middle, here, between, reaches⟩ := exists_hosts_of_uriRelation (Except.ok.inj outer)
  obtain ⟨middle', host', between', there, reaches'⟩ :=
    exists_hosts_of_uriRelation (Except.ok.inj inner)
  obtain rfl := Option.some.inj (between.symm.trans between')
  refine ⟨host, host', here, there, ?_⟩
  show Except.ok (uriRelation one.toList three.toList) = _
  rw [uriRelation, here, there]
  exact congrArg Except.ok (hostRelation_of_reaches reaches reaches')

/-- A domain with a dot, another below it, and a host below both, with a user and a port. -/
theorem constrains_uri_of_chain_dotted :
    let one := GeneralName.uri ".com"
    let two := GeneralName.uri "ldap://.Example.com"
    let three := GeneralName.uri "https://user@www.example.COM:8080/index"
    one.constrains (some two) = .ok .narrows ∧ two.constrains (some three) = .ok .narrows ∧
      one.constrains (some three) = .ok .narrows := by
  intro one two three
  have outer : one.constrains (some two) = .ok .narrows := congrArg Except.ok (by decide +kernel)
  have inner : two.constrains (some three) = .ok .narrows := congrArg Except.ok (by decide +kernel)
  obtain ⟨host, host', here, -, related⟩ := constrains_uri_of_chain outer inner
  have domain : Uri.host? ".com".toList = some ".com".toList := by decide +kernel
  obtain rfl := Option.some.inj (domain.symm.trans here)
  exact ⟨outer, inner, related⟩

/-- A text that is read as a resource in the base of a subtree. -/
def IsUriBase (text : String) : Prop :=
  ofElement .subtree (.contextSpecific 6 false (.octetString (Octets.ofText text))) =
    .ok (.uri text)

/-- **Narrowing is not transitive for resources.** A host contains the domain with a dot at it, and
that domain the hosts below it, but the host does not contain those. -/
theorem constrains_uri_not_trans :
    ¬ ∀ one two three : String, IsUriBase one → IsUriBase two → IsUriBase three →
      (GeneralName.uri one).constrains (some (.uri two)) = .ok .narrows →
      (GeneralName.uri two).constrains (some (.uri three)) = .ok .narrows →
      (GeneralName.uri one).constrains (some (.uri three)) = .ok .narrows := by
  intro trans
  have bases : IsUriBase "example.com" ∧ IsUriBase ".example.com" ∧
      IsUriBase "http://www.example.com/" := by
    refine ⟨?_, ?_, ?_⟩ <;> · unfold IsUriBase; decide +kernel
  have narrows := trans "example.com" ".example.com" "http://www.example.com/" bases.1 bases.2.1
    bases.2.2 (congrArg Except.ok (by decide +kernel)) (congrArg Except.ok (by decide +kernel))
  have related : uriRelation "example.com".toList "http://www.example.com/".toList = .sameType := by
    decide +kernel
  exact absurd (related.symm.trans (Except.ok.inj narrows)) (by decide)

end GeneralName

end X509
