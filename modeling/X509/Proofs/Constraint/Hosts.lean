/-
**Resources under the domains of their hosts.**

A resource may stand anywhere when it is a word of ASCII characters with a scheme; it need not have
a host. One that has a host relates to a domain with a dot by that host alone. One that has none is
unrelated to every such domain, since it is compared as a whole, and a domain has no scheme.

* `GeneralName.resource_eq_ok_iff`, `GeneralName.ofElement_uri_eq_ok_iff` — which texts are
  resources.
* `Uri.host?_of_dotted` — a domain with a dot is its own host.
* `GeneralName.constrains_resource_domain` — the hosts of resources, and how they relate to domains.
* `GeneralName.exists_resource_without_host` — a resource that has none.
-/

import X509.Proofs.Constraint.Mailboxes
import X509.Proofs.Constraint.Resources
import X509.Proofs.GeneralName.Contexts

namespace X509

/-! ### Resources -/

/-- **A resource that needs no context:** a word of ASCII characters with a scheme. -/
def Uri.IsAbsolute (text : List Char) : Prop :=
  isAsciiWord text = true ∧ HasScheme text

theorem isUri_plain_iff_isAbsolute {text : List Char} :
    isUri .plain text = true ↔ Uri.IsAbsolute text := by
  rw [isUri, Bool.and_eq_true, Uri.IsAbsolute, ← Uri.isSome_afterScheme?_iff]
  simp

theorem ascii_of_isAsciiWord {text : List Char} (word : isAsciiWord text = true) :
    ∀ c ∈ text, c.toNat < 0x80 := by
  intro c inside
  have each := List.all_eq_true.1 word c inside
  exact of_decide_eq_true (Bool.and_eq_true_iff.1 each).1

namespace GeneralName

variable {context : NameContext} {text : String} {name : GeneralName}

/-- A resource is made of an absolute text. -/
theorem resource_eq_ok_iff :
    resource text = .ok name ↔ Uri.IsAbsolute text.toList ∧ .uri text = name := by
  rw [resource, Except.bind_eq_ok_iff, ← isUri_plain_iff_isAbsolute]
  constructor
  · rintro ⟨_, passed, same⟩
    exact ⟨check_eq_ok_iff.1 passed, Except.ok.inj same⟩
  · rintro ⟨valid, rfl⟩
    exact ⟨(), check_eq_ok_iff.2 valid, rfl⟩

/-- A resource is read from the octets of a text that passes the check. -/
theorem ofElement_uri_eq_ok_iff :
    ofElement context (.contextSpecific 6 false (.octetString (Octets.ofText text))) = .ok name ↔
      isUri context text.toList = true ∧ .uri text = name := by
  show ofTagged context .uri _ = _ ↔ _
  refine readText_eq_ok_iff.trans ?_
  constructor
  · rintro ⟨spelled, read, passed, same⟩
    obtain ⟨-, spelling⟩ := textOf_eq_ok_iff.1 read
    rw [Octets.toText?_ofText] at spelling
    obtain rfl := Option.some.inj spelling
    exact ⟨check_eq_ok_iff.1 passed, same⟩
  · rintro ⟨valid, same⟩
    have word := (Bool.and_eq_true_iff.1 valid).1
    have ascii := Octets.isAscii_ofText (ascii_of_isAsciiWord word)
    exact ⟨text, textOf_eq_ok_iff.2 ⟨ascii, Octets.toText?_ofText text⟩, check_eq_ok_iff.2 valid,
      same⟩

end GeneralName

/-! ### Domains with a dot -/

/-- A text that starts with a dot has no scheme. -/
theorem Uri.not_hasScheme_of_dotted {text : List Char} (dotted : startsWithDot text = true) :
    ¬ HasScheme text := by
  rintro ⟨scheme, rest, rfl, valid⟩
  cases scheme with
  | nil => cases valid
  | cons first others =>
    obtain ⟨letter, -⟩ := Bool.and_eq_true_iff.1 valid
    obtain rfl : first = '.' := by simpa [startsWithDot] using dotted
    exact absurd letter (by decide)

/-- The characters of the labels of a domain. -/
theorem char_of_areLabels {pieces : List (List Char)} (valid : areLabels pieces = true) :
    ∀ piece ∈ pieces, ∀ c ∈ piece, c = '*' ∨ isLabelChar c = true := by
  refine forall_of_areLabels (fun c inside => .inl (List.mem_singleton.1 inside)) ?_ valid
  intro piece label c inside
  exact .inr (List.all_eq_true.1 (Bool.and_eq_true_iff.1 label).2 c inside)

/-- The characters of a domain: dots, asterisks and those of labels. -/
theorem char_of_isDomain {domain : List Char} {c : Char}
    (valid : isDomain .subtree domain = true) (member : c ∈ domain) :
    c = '.' ∨ c = '*' ∨ isLabelChar c = true := by
  refine or_iff_not_imp_left.2 fun other => ?_
  obtain ⟨label, piece, inside⟩ := exists_mem_labels other member
  rw [← labels_dropDot] at piece
  exact char_of_areLabels (Bool.and_eq_true_iff.1 valid).2 label (mem_labels_iff.1 piece).1 c inside

/-- No character of a domain ends an authority, and none is an at sign. -/
theorem Uri.plain_of_mem_isDomain {domain : List Char} {c : Char}
    (valid : isDomain .subtree domain = true) (member : c ∈ domain) :
    (endsAuthority c || c == '@') = false := by
  refine Bool.eq_false_iff.2 fun special => ?_
  have listed : c = '/' ∨ c = '?' ∨ c = '#' ∨ c = '@' := by
    simpa [endsAuthority, or_assoc] using special
  have allowed := char_of_isDomain valid member
  rcases listed with rfl | rfl | rfl | rfl <;> exact absurd allowed (by decide)

/-- **A domain with a dot is its own host.** -/
theorem Uri.host?_of_dotted {domain : List Char} (valid : isUri .subtree domain = true)
    (dotted : startsWithDot domain = true) : host? domain = some domain := by
  have schemeless := afterScheme?_eq_none_iff.2 (not_hasScheme_of_dotted dotted)
  have domainValid : isDomain .subtree domain = true := by
    simpa [isUri, schemeless] using (Bool.and_eq_true_iff.1 valid).2
  have filled : domain.isEmpty = false := by
    rw [eq_dot_cons_dropDot dotted]
    rfl
  have plain : domain.any (fun c => endsAuthority c || c == '@') = false := by
    refine List.any_eq_false.2 fun c inside => ?_
    exact Bool.eq_false_iff.1 (plain_of_mem_isDomain domainValid inside)
  rw [host?_of_no_scheme schemeless, filled, plain]
  rfl

namespace GeneralName

/-! ### Resources under domains -/

/-- **A resource relates to a domain with a dot by its host.** A text that is accepted as a resource
anywhere is absolute. Its host is the host among its parts, and how it relates to a domain is how
that host does; without a host it is unrelated to every domain. -/
theorem constrains_resource_domain {text : String} {name : GeneralName}
    (accepted : resource text = .ok name ∨
      ofElement .plain (.contextSpecific 6 false (.octetString (Octets.ofText text))) = .ok name) :
    Uri.IsAbsolute text.toList ∧
      (∀ host, Uri.host? text.toList = some host ↔ Uri.HasHost text.toList host) ∧
      ∀ domain : String, IsUriBase domain → startsWithDot domain.toList = true →
        (GeneralName.uri domain).constrains (some name) =
            .ok ((Uri.host? text.toList).elim .sameType (hostRelation domain.toList)) ∧
          name.constrains (some (.uri domain)) =
            .ok ((Uri.host? text.toList).elim .sameType (hostRelation · domain.toList)) := by
  have valid : Uri.IsAbsolute text.toList ∧ .uri text = name := by
    rcases accepted with made | read
    · exact resource_eq_ok_iff.1 made
    · rw [ofElement_uri_eq_ok_iff, isUri_plain_iff_isAbsolute] at read
      exact read
  obtain ⟨absolute, rfl⟩ := valid
  refine ⟨absolute, fun host => Uri.host?_eq_some_iff_hasHost absolute.2, ?_⟩
  intro domain base dotted
  have own : Uri.host? domain.toList = some domain.toList :=
    Uri.host?_of_dotted (ofElement_uri_eq_ok_iff.1 base).1 dotted
  show Except.ok (uriRelation _ _) = _ ∧ Except.ok (uriRelation _ _) = _
  cases found : Uri.host? text.toList with
  | some host =>
    rw [uriRelation, uriRelation, own, found]
    exact ⟨rfl, rfl⟩
  | none =>
    -- the texts differ, since the domain has no scheme
    have differs : domain.toList ≠ text.toList := fun same =>
      Uri.not_hasScheme_of_dotted dotted (same ▸ absolute.2)
    rw [uriRelation_of_no_host (.inr found), uriRelation_of_no_host (.inl found), if_neg differs,
      if_neg differs.symm]
    exact ⟨rfl, rfl⟩

/-- A resource with a user and a port lies below the domain of its host; one without an authority is
unrelated to it. -/
theorem constrains_resource_domain_shop :
    let domain := GeneralName.uri ".example.com"
    let shop := GeneralName.uri "https://user@Shop.example.COM:8443/cart"
    let book := GeneralName.uri "urn:isbn:0451450523"
    resource "https://user@Shop.example.COM:8443/cart" = .ok shop ∧
      resource "urn:isbn:0451450523" = .ok book ∧ domain.constrains (some shop) = .ok .narrows ∧
      domain.constrains (some book) = .ok .sameType := by
  intro domain shop book
  have base : IsUriBase ".example.com" := by
    unfold IsUriBase
    decide +kernel
  have shopMade : resource "https://user@Shop.example.COM:8443/cart" = .ok shop := by
    decide +kernel
  have bookMade : resource "urn:isbn:0451450523" = .ok book := by decide +kernel
  obtain ⟨-, -, below⟩ := constrains_resource_domain (.inl shopMade)
  obtain ⟨-, -, apart⟩ := constrains_resource_domain (.inl bookMade)
  refine ⟨shopMade, bookMade, ?_, ?_⟩
  · exact (below _ base rfl).1.trans (congrArg Except.ok (by decide +kernel))
  · exact (apart _ base rfl).1.trans (congrArg Except.ok (by decide +kernel))

/-- **A resource need not have a host** to be accepted anywhere. -/
theorem exists_resource_without_host :
    ¬ ∀ text : String,
      (∃ name, resource text = .ok name) ∨
        (∃ name, ofElement .plain
          (.contextSpecific 6 false (.octetString (Octets.ofText text))) = .ok name) →
      (Uri.host? text.toList).isSome = true := by
  intro hosts
  have made : resource "urn:isbn:0451450523" = .ok (.uri "urn:isbn:0451450523") := by
    decide +kernel
  exact absurd (hosts _ (.inl ⟨_, made⟩)) (by decide +kernel)

end GeneralName

end X509
