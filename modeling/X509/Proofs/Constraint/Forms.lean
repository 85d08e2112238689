/-
**The comparison of each form of name.**

Every form has a key and a containment. Domains and mailboxes are compared in lower case, hosts too,
though whether a host is an address and whether it starts with a dot decide as well; resources by
their hosts, ranges of addresses without their host bits, and directory names by their levels in
canonical form. Each containment is transitive, but for that of hosts.

* `domain_isContainment`, `mailbox_isContainment`, `range_isContainment`, `directory_isContainment`
  — four forms, with `domainContains_trans` and the lemmas beside it.
* `hostReaches_antisymm`, `resource_isContainment` — hosts and the resources at them.
* `domainRelation_eq_between` and the lemmas beside it — the relations are what these give.
-/

import X509.Constraint.Constrains
import X509.Proofs.Address.Case
import X509.Proofs.Address.Ranges
import X509.Proofs.Constraint.Laws

namespace X509

open NameRelation (between IsContainment)

/-! ### Domains -/

theorem charBefore?_append (front back : List Char) :
    charBefore? back (front ++ back) = front.getLast? := by
  rw [charBefore?, List.length_append, Nat.add_sub_cancel, List.take_left]

/-- A text reaches into another with nothing before it, or with a character that stays the one
before it whatever comes in front. -/
theorem charBefore?_append_append {back front : List Char} (filled : front ≠ [])
    (more : List Char) :
    charBefore? back (more ++ (front ++ back)) = charBefore? back (front ++ back) := by
  rw [← List.append_assoc, charBefore?_append, charBefore?_append, List.getLast?_append,
    Option.or_of_isSome (List.getLast?_isSome.2 filled)]

theorem domainContains_iff {outer inner : List Char} :
    domainContains outer inner = true ↔ outer <:+ inner ∧ startsAtLabel outer inner = true := by
  rw [domainContains, Bool.and_eq_true, List.isSuffixOf_iff_suffix]

theorem domainContains_trans {one two three : List Char} (outer : domainContains one two = true)
    (inner : domainContains two three = true) : domainContains one three = true := by
  rw [domainContains_iff] at outer inner ⊢
  obtain ⟨⟨front, rfl⟩, boundary⟩ := outer
  obtain ⟨⟨more, rfl⟩, further⟩ := inner
  refine ⟨⟨more ++ front, List.append_assoc more front one⟩, ?_⟩
  by_cases filled : front = []
  · subst filled
    exact further
  · rw [startsAtLabel, charBefore?_append_append filled]
    exact boundary

/-- Texts that end each other are equal. -/
theorem eq_of_suffix_of_suffix {one two : List Char} (outer : one <:+ two) (inner : two <:+ one) :
    one = two :=
  outer.eq_of_length (Nat.le_antisymm outer.length_le inner.length_le)

theorem domainContains_antisymm {one two : List Char} (outer : domainContains one two = true)
    (inner : domainContains two one = true) : one = two :=
  eq_of_suffix_of_suffix (domainContains_iff.1 outer).1 (domainContains_iff.1 inner).1

/-- Whether a domain contains another whatever their case. -/
def domainReaches (outer inner : List Char) : Bool :=
  domainContains (foldCase outer) (foldCase inner)

theorem domain_isContainment : IsContainment foldCase domainReaches where
  antisymm := domainContains_antisymm
  congr outer inner := by rw [domainReaches, domainReaches, outer, inner]

theorem domainRelation_eq_between : domainRelation = between foldCase domainReaches :=
  rfl

/-! ### Mailboxes -/

theorem mailboxContains_iff {outer inner : List Char} :
    mailboxContains outer inner = true ↔
      outer <:+ inner ∧ '@' ∉ outer ∧
        (outer.head? = some '.' ∨ charBefore? outer inner = some '@') := by
  simp only [mailboxContains, Bool.and_eq_true, List.isSuffixOf_iff_suffix, Bool.not_eq_true',
    List.contains_eq_mem, decide_eq_false_iff_not, Bool.or_eq_true, beq_iff_eq, and_assoc]

/-- A mailbox contains nothing, so between two names that contain others there is no at sign, and
only domains with a dot reach through. -/
theorem mailboxContains_trans {one two three : List Char} (outer : mailboxContains one two = true)
    (inner : mailboxContains two three = true) : mailboxContains one three = true := by
  rw [mailboxContains_iff] at outer inner ⊢
  obtain ⟨⟨front, rfl⟩, free, boundary⟩ := outer
  obtain ⟨⟨more, rfl⟩, host, further⟩ := inner
  refine ⟨⟨more ++ front, List.append_assoc more front one⟩, free, ?_⟩
  rcases boundary with dot | sign
  · exact Or.inl dot
  · rw [charBefore?_append] at sign
    have inside : '@' ∈ front := List.mem_of_getLast? sign
    exact absurd (List.mem_append_left one inside) host

/-- Whether a mailbox, a host or a domain contains another whatever their case. -/
def mailboxReaches (outer inner : List Char) : Bool :=
  mailboxContains (foldCase outer) (foldCase inner)

theorem mailbox_isContainment : IsContainment foldCase mailboxReaches where
  antisymm outer inner :=
    eq_of_suffix_of_suffix (mailboxContains_iff.1 outer).1 (mailboxContains_iff.1 inner).1
  congr outer inner := by rw [mailboxReaches, mailboxReaches, outer, inner]

theorem mailboxRelation_eq_between : mailboxRelation = between foldCase mailboxReaches :=
  rfl

/-! ### Directory names -/

/-- Whether a directory name lies at the beginning of another. -/
def directoryReaches (outer inner : Name) : Bool :=
  inner.isWithin outer

theorem directoryReaches_trans {one two three : Name} (outer : directoryReaches one two = true)
    (inner : directoryReaches two three = true) : directoryReaches one three = true := by
  rw [directoryReaches, Name.isWithin_iff] at outer inner ⊢
  exact outer.trans inner

theorem directory_isContainment : IsContainment Name.canonicalLevels directoryReaches where
  antisymm outer inner := by
    rw [directoryReaches, Name.isWithin_iff] at outer inner
    exact outer.eq_of_length (Nat.le_antisymm outer.length_le inner.length_le)
  congr outer inner := by
    rw [directoryReaches, directoryReaches, Name.isWithin, Name.isWithin, outer, inner]

theorem directoryRelation_eq_between :
    Name.relation = between Name.canonicalLevels directoryReaches :=
  rfl

/-! ### Ranges of addresses -/

namespace AddressRange

/-- The same range, its host bits cleared. -/
def truncate : AddressRange → AddressRange
  | .address single => .address single
  | .network range => .network range.truncate

/-- Whether a range contains another. An address contains nothing. -/
def contains : AddressRange → AddressRange → Bool
  | .network outer, .network inner => outer.containsNetwork inner
  | .network outer, .address inner => outer.contains inner
  | .address _, _ => false

theorem contains_trans {one two three : AddressRange} (outer : one.contains two = true)
    (inner : two.contains three = true) : one.contains three = true :=
  match one, two, three, outer, inner with
  | .network _, .network _, .network _, outer, inner =>
    IpNetwork.containsNetwork_trans outer inner
  | .network _, .network _, .address _, outer, inner =>
    IpNetwork.contains_of_containsNetwork outer inner

theorem contains_antisymm {one two : AddressRange} (outer : one.contains two = true)
    (inner : two.contains one = true) : one.truncate = two.truncate :=
  match one, two, outer, inner with
  | .network _, .network _, outer, inner =>
    congrArg network (IpNetwork.containsNetwork_antisymm outer inner)

theorem contains_congr {one one' two two' : AddressRange} (outer : one.truncate = one'.truncate)
    (inner : two.truncate = two'.truncate) : one.contains two = one'.contains two' :=
  match one, one', two, two', outer, inner with
  | .network _, .network _, .network _, .network _, outer, inner =>
    IpNetwork.containsNetwork_congr (network.inj outer) (network.inj inner)
  | .network _, .network _, .address single, .address single', outer, inner => by
    have same : single = single' := address.inj inner
    rw [same]
    exact IpNetwork.contains_congr (network.inj outer) single'
  | .address _, .address _, _, _, _, _ => rfl

end AddressRange

theorem range_isContainment : IsContainment AddressRange.truncate AddressRange.contains where
  antisymm := AddressRange.contains_antisymm
  congr := AddressRange.contains_congr

theorem rangeRelation_eq_between :
    AddressRange.relation = between AddressRange.truncate AddressRange.contains := by
  funext one two
  match one, two with
  | .network one, .network two =>
    have keys : (AddressRange.network one.truncate == .network two.truncate) =
        (one.truncate == two.truncate) := by
      rw [Bool.eq_iff_iff, beq_iff_eq, beq_iff_eq, AddressRange.network.injEq]
    rw [AddressRange.relation, between, AddressRange.truncate, AddressRange.truncate, keys]
    rfl
  | .network one, .address two => rfl
  | .address one, .network two => rfl
  | .address one, .address two =>
    have keys : (AddressRange.address one == .address two) = decide (one = two) := by
      rw [Bool.eq_iff_iff, beq_iff_eq, decide_eq_true_iff, AddressRange.address.injEq]
    rw [AddressRange.relation, between, AddressRange.truncate, AddressRange.truncate, keys]
    by_cases same : one = two
    · rw [if_pos same, decide_eq_true same]
      rfl
    · rw [if_neg same, decide_eq_false same]
      rfl

/-! ### Hosts -/

/-- Whether a text starts with a dot. -/
def startsWithDot (text : List Char) : Bool :=
  text.head? == some '.'

theorem eq_dot_cons_dropDot {text : List Char} (dotted : startsWithDot text = true) :
    text = '.' :: dropDot text := by
  cases text with
  | nil => cases dotted
  | cons c rest =>
    obtain rfl : c = '.' := Option.some.inj (beq_iff_eq.1 dotted)
    rfl

theorem dropDot_eq_self {text : List Char} (bare : startsWithDot text = false) :
    dropDot text = text := by
  unfold dropDot
  split
  · cases bare
  · rfl

theorem eq_of_dropDot_eq {one two : List Char} (dots : startsWithDot one = startsWithDot two)
    (rest : dropDot one = dropDot two) : one = two := by
  cases dotted : startsWithDot two with
  | true => rw [eq_dot_cons_dropDot dotted, eq_dot_cons_dropDot (dots.trans dotted), rest]
  | false => rw [← dropDot_eq_self dotted, ← dropDot_eq_self (dots.trans dotted), rest]

theorem startsWithDot_foldCase (text : List Char) :
    startsWithDot (foldCase text) = startsWithDot text := by
  cases text with
  | nil => rfl
  | cons c rest =>
    show (some c.toLower == some '.') = (some c == some '.')
    rw [Bool.eq_iff_iff, beq_iff_eq, beq_iff_eq, Option.some_inj, Option.some_inj]
    exact toLower_eq_iff rfl

theorem dropDot_foldCase (text : List Char) :
    dropDot (foldCase text) = foldCase (dropDot text) := by
  cases dotted : startsWithDot text with
  | true =>
    rw [eq_dot_cons_dropDot dotted]
    rfl
  | false =>
    rw [dropDot_eq_self dotted, dropDot_eq_self ((startsWithDot_foldCase text).trans dotted)]

/-- Whether a host contains another. Of two that differ in the dot only, the one without it contains
the other; otherwise one of them must have the dot, and their domains decide. -/
def hostReaches (outer inner : List Char) : Bool :=
  !isAddress outer && !isAddress inner &&
    if foldCase (dropDot outer) = foldCase (dropDot inner) then
      !startsWithDot outer && startsWithDot inner
    else
      (startsWithDot outer || startsWithDot inner) && domainReaches (dropDot outer) (dropDot inner)

theorem hostReaches_foldCase (outer inner : List Char) :
    hostReaches (foldCase outer) (foldCase inner) = hostReaches outer inner := by
  simp only [hostReaches, domainReaches, isAddress_foldCase, dropDot_foldCase, foldCase_foldCase,
    startsWithDot_foldCase]

theorem hostReaches_antisymm {one two : List Char} (outer : hostReaches one two = true)
    (inner : hostReaches two one = true) : foldCase one = foldCase two := by
  rw [hostReaches, Bool.and_eq_true] at outer inner
  have outer := outer.2
  have inner := inner.2
  by_cases rest : foldCase (dropDot one) = foldCase (dropDot two)
  · rw [if_pos rest, Bool.and_eq_true, Bool.not_eq_true'] at outer
    rw [if_pos rest.symm, Bool.and_eq_true, Bool.not_eq_true'] at inner
    exact absurd (outer.1.symm.trans inner.2) Bool.false_ne_true
  · rw [if_neg rest, Bool.and_eq_true] at outer
    rw [if_neg (Ne.symm rest), Bool.and_eq_true] at inner
    exact absurd (domainContains_antisymm outer.2 inner.2) rest

theorem hostReaches_of_hosts {outer inner : List Char} (plain : isAddress outer = false)
    (plain' : isAddress inner = false) :
    hostReaches outer inner =
      if foldCase (dropDot outer) = foldCase (dropDot inner) then
        !startsWithDot outer && startsWithDot inner
      else
        (startsWithDot outer || startsWithDot inner) &&
          domainReaches (dropDot outer) (dropDot inner) := by
  rw [hostReaches, plain, plain']
  rfl

theorem hostReaches_of_address {outer inner : List Char}
    (single : isAddress outer = true ∨ isAddress inner = true) :
    hostReaches outer inner = false := by
  rcases single with outer | inner
  · rw [hostReaches, outer]
    rfl
  · rw [hostReaches, inner, Bool.not_true, Bool.and_false]
    rfl

/-- The table of dots and relations is the containment of hosts. -/
theorem hostRelation_eq_between : hostRelation = between foldCase hostReaches := by
  funext one two
  rw [hostRelation, between]
  by_cases same : foldCase one = foldCase two
  · rw [if_pos same, beq_iff_eq.2 same]
    rfl
  rw [if_neg same, beq_eq_false_iff_ne.2 same]
  by_cases single : (isAddress one || isAddress two) = true
  · have either := Bool.or_eq_true_iff.1 single
    rw [if_pos single, hostReaches_of_address either, hostReaches_of_address either.symm]
    rfl
  obtain ⟨plain, plain'⟩ := Bool.or_eq_false_iff.1 (Bool.not_eq_true _ ▸ single)
  rw [if_neg single, hostReaches_of_hosts plain plain', hostReaches_of_hosts plain' plain,
    domainRelation_eq_between, between]
  rw [← startsWithDot, ← startsWithDot]
  by_cases rest : foldCase (dropDot one) = foldCase (dropDot two)
  · -- only the dot can tell them apart
    have dots : startsWithDot one ≠ startsWithDot two := by
      rw [← startsWithDot_foldCase one, ← startsWithDot_foldCase two]
      refine fun dots => same (eq_of_dropDot_eq dots ?_)
      rw [dropDot_foldCase, dropDot_foldCase, rest]
    rw [if_pos rest, if_pos rest.symm, beq_iff_eq.2 rest]
    cases one' : startsWithDot one <;> cases two' : startsWithDot two
    · exact absurd (one'.trans two'.symm) dots
    · rfl
    · rfl
    · exact absurd (one'.trans two'.symm) dots
  · rw [if_neg rest, if_neg (Ne.symm rest), beq_eq_false_iff_ne.2 rest]
    cases startsWithDot one <;> cases startsWithDot two <;>
      cases domainReaches (dropDot one) (dropDot two) <;>
      cases domainReaches (dropDot two) (dropDot one) <;> rfl

/-! ### Resources -/

/-- What stands for a resource in a comparison: its host, or itself when it has none. -/
inductive ResourceKey where
  | host (host : List Char)
  | whole (uri : List Char)
deriving DecidableEq

/-- What a resource is compared by. -/
def resourceKey (uri : List Char) : ResourceKey :=
  match Uri.host? uri with
  | some host => .host (foldCase host)
  | none => .whole uri

/-- Whether the host of a resource contains that of another. -/
def resourceReaches (outer inner : List Char) : Bool :=
  match Uri.host? outer, Uri.host? inner with
  | some host, some host' => hostReaches host host'
  | _, _ => false

theorem resourceKey_of_host {uri host : List Char} (found : Uri.host? uri = some host) :
    resourceKey uri = .host (foldCase host) := by
  rw [resourceKey, found]

theorem resourceKey_of_no_host {uri : List Char} (missing : Uri.host? uri = none) :
    resourceKey uri = .whole uri := by
  rw [resourceKey, missing]

theorem foldCase_of_resourceKey {uri host : List Char} (key : resourceKey uri = .host host) :
    foldCase host = host := by
  cases found : Uri.host? uri with
  | none => cases (resourceKey_of_no_host found).symm.trans key
  | some spelled =>
    have folded := ResourceKey.host.inj ((resourceKey_of_host found).symm.trans key)
    rw [← folded, foldCase_foldCase]

/-- Only keys matter to the containment of resources. -/
theorem resourceReaches_iff {outer inner : List Char} :
    resourceReaches outer inner = true ↔
      ∃ host host', resourceKey outer = .host host ∧ resourceKey inner = .host host' ∧
        hostReaches host host' = true := by
  unfold resourceReaches resourceKey
  cases Uri.host? outer <;> cases Uri.host? inner <;> simp [hostReaches_foldCase]

theorem resource_isContainment : IsContainment resourceKey resourceReaches where
  antisymm outer inner := by
    obtain ⟨host, host', here, there, reaches⟩ := resourceReaches_iff.1 outer
    obtain ⟨back', back, there', here', returns⟩ := resourceReaches_iff.1 inner
    obtain rfl := ResourceKey.host.inj (here.symm.trans here')
    obtain rfl := ResourceKey.host.inj (there.symm.trans there')
    have same := hostReaches_antisymm reaches returns
    rw [foldCase_of_resourceKey here, foldCase_of_resourceKey there] at same
    rw [here, there, same]
  congr outer inner := by
    rw [Bool.eq_iff_iff, resourceReaches_iff, resourceReaches_iff, outer, inner]

/-- Only the same resource has the key of one without a host. -/
theorem eq_of_resourceKey_eq {one two : List Char}
    (missing : Uri.host? one = none ∨ Uri.host? two = none)
    (same : resourceKey one = resourceKey two) : one = two := by
  rcases missing with missing | missing
  · rw [resourceKey_of_no_host missing] at same
    cases there : Uri.host? two with
    | none => exact ResourceKey.whole.inj (same.trans (resourceKey_of_no_host there))
    | some host => cases same.trans (resourceKey_of_host there)
  · rw [resourceKey_of_no_host missing] at same
    cases here : Uri.host? one with
    | none => exact ResourceKey.whole.inj ((resourceKey_of_no_host here).symm.trans same)
    | some host => cases (resourceKey_of_host here).symm.trans same

theorem resourceReaches_of_no_host {outer inner : List Char}
    (missing : Uri.host? outer = none ∨ Uri.host? inner = none) :
    resourceReaches outer inner = false := by
  unfold resourceReaches
  rcases missing with missing | missing
  · rw [missing]
  · rw [missing]
    cases Uri.host? outer <;> rfl

theorem uriRelation_of_no_host {one two : List Char}
    (missing : Uri.host? one = none ∨ Uri.host? two = none) :
    uriRelation one two = if one = two then .same else .sameType := by
  unfold uriRelation
  rcases missing with missing | missing
  · rw [missing]
  · rw [missing]
    cases Uri.host? one <;> rfl

theorem uriRelation_eq_between : uriRelation = between resourceKey resourceReaches := by
  funext one two
  by_cases missing : Uri.host? one = none ∨ Uri.host? two = none
  · -- without a host nothing is contained
    rw [uriRelation_of_no_host missing, between, resourceReaches_of_no_host missing,
      resourceReaches_of_no_host missing.symm]
    by_cases same : one = two
    · rw [if_pos same, same, beq_self_eq_true]
      rfl
    · rw [if_neg same, beq_eq_false_iff_ne.2 (mt (eq_of_resourceKey_eq missing) same)]
      rfl
  · obtain ⟨host, here⟩ := Option.ne_none_iff_exists'.1 fun none => missing (.inl none)
    obtain ⟨host', there⟩ := Option.ne_none_iff_exists'.1 fun none => missing (.inr none)
    have keys : (ResourceKey.host (foldCase host) == .host (foldCase host')) =
        (foldCase host == foldCase host') := by
      rw [Bool.eq_iff_iff, beq_iff_eq, beq_iff_eq, ResourceKey.host.injEq]
    rw [between, resourceKey_of_host here, resourceKey_of_host there, keys]
    rw [uriRelation, resourceReaches, resourceReaches, here, there, hostRelation_eq_between]
    rfl

end X509
