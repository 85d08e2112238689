/-
**Depths agree with containment.**

The depth of a name counts its levels: the labels of a domain, one more for a mailbox, the labels of
the host of a resource, the levels of a directory name. A text that ends another one has no more
labels, whatever the two hold: what stands in front may add labels or join the first one, but takes
none away. So a name that contains another one has a depth, which is no greater than that of the
other, and of same names both have one depth or neither has any.

* `domainDepth_le_of_suffix` — labels of a text and of its end.
* `NameRelation.DepthAgrees` — a depth that agrees with a containment, with an instance for domains,
  mailboxes, resources and directory names.
* `GeneralName.subtreeDepth_of_constrains` — the depths of general names.
-/

import X509.Proofs.Constraint.Algebra
import X509.Proofs.Constraint.Labels

namespace X509

open NameRelation (between between_eq_narrows_iff between_eq_same_iff)

/-! ### Labels -/

theorem domainDepth_dot_cons (rest : List Char) : domainDepth ('.' :: rest) = domainDepth rest :=
  rfl

/-- A character in front adds a label, joins the first one, or is a dot. -/
theorem domainDepth_le_cons (c : Char) (rest : List Char) :
    domainDepth rest ≤ domainDepth (c :: rest) := by
  by_cases dot : c = '.'
  · exact Nat.le_of_eq (by rw [dot, domainDepth_dot_cons])
  · unfold domainDepth labels Text.splitOn
    rw [Text.splitWhere, if_neg (by simpa using dot)]
    cases Text.splitWhere (· == '.') rest with
    | nil => exact Nat.zero_le _
    | cons piece pieces =>
      have grown : (!(c :: piece).isEmpty) = true := rfl
      have joined : ((c :: piece) :: pieces).filter (!·.isEmpty) =
          (c :: piece) :: pieces.filter (!·.isEmpty) := List.filter_cons_of_pos grown
      have most : ((piece :: pieces).filter (!·.isEmpty)).length ≤
          (pieces.filter (!·.isEmpty)).length + 1 := by
        rw [List.filter_cons]
        split
        · exact Nat.le_refl _
        · exact Nat.le_add_right _ 1
      simpa only [joined, List.length_cons] using most

/-- **A text that ends another one has no more labels.** -/
theorem domainDepth_le_of_suffix {back text : List Char} (ends : back <:+ text) :
    domainDepth back ≤ domainDepth text := by
  obtain ⟨front, rfl⟩ := ends
  induction front with
  | nil => exact Nat.le_refl _
  | cons c front ih => exact Nat.le_trans ih (domainDepth_le_cons c (front ++ back))

theorem domainDepth_dropDot (text : List Char) : domainDepth (dropDot text) = domainDepth text :=
  congrArg List.length (labels_dropDot text)

theorem domainDepth_foldCase (text : List Char) :
    domainDepth (foldCase text) = domainDepth text := by
  rw [domainDepth, domainDepth, labels_foldCase, lowerLabels, List.length_map]

/-- Texts with one lowered form have as many labels. -/
theorem domainDepth_eq_of_foldCase_eq {one two : List Char} (same : foldCase one = foldCase two) :
    domainDepth one = domainDepth two := by
  rw [← domainDepth_foldCase one, same, domainDepth_foldCase]

/-- **A domain that contains another one has no more labels.** -/
theorem domainDepth_le_of_reaches {outer inner : List Char}
    (reaches : domainReaches outer inner = true) : domainDepth outer ≤ domainDepth inner := by
  have ends := domainDepth_le_of_suffix (domainContains_iff.1 reaches).1
  rwa [domainDepth_foldCase, domainDepth_foldCase] at ends

/-! ### Mailboxes -/

/-- The last at sign stays where it is. -/
theorem splitLast?_foldCase (text : List Char) :
    Text.splitLast? '@' (foldCase text) =
      (Text.splitLast? '@' text).map (Prod.map foldCase foldCase) :=
  Text.splitLast?_map (fun _ => toLower_eq_iff rfl) text

theorem mailboxDepth_foldCase (text : List Char) :
    mailboxDepth (foldCase text) = mailboxDepth text := by
  unfold mailboxDepth
  rw [splitLast?_foldCase]
  cases Text.splitLast? '@' text with
  | none => exact domainDepth_foldCase text
  | some parts => exact congrArg (1 + ·) (domainDepth_foldCase parts.2)

/-- The end of a text that holds no separator lies behind the last one. -/
theorem suffix_of_splitLast? {separator : Char} {back text before after : List Char}
    (split : Text.splitLast? separator text = some (before, after)) (free : separator ∉ back)
    (ends : back <:+ text) : back <:+ after := by
  obtain ⟨-, rfl⟩ := Text.splitLast?_eq_some split
  rcases List.suffix_or_suffix_of_suffix ends (List.suffix_append before (separator :: after)) with
    within | beyond
  · rcases List.suffix_cons_iff.1 within with rfl | within
    · exact absurd List.mem_cons_self free
    · exact within
  · exact absurd (beyond.subset List.mem_cons_self) free

/-- **What contains a mailbox, a host or a domain is no deeper.** It holds no at sign, so it ends
the domain of the mailbox, and the mailbox counts as one level more. -/
theorem mailboxDepth_le_of_contains {outer inner : List Char}
    (contains : mailboxContains outer inner = true) : mailboxDepth outer ≤ mailboxDepth inner := by
  obtain ⟨ends, free, -⟩ := mailboxContains_iff.1 contains
  have host : mailboxDepth outer = domainDepth outer := by
    rw [mailboxDepth, Text.splitLast?_eq_none_iff.2 free]
  rw [host, mailboxDepth]
  cases split : Text.splitLast? '@' inner with
  | none => exact domainDepth_le_of_suffix ends
  | some parts =>
    have labels := domainDepth_le_of_suffix (suffix_of_splitLast? split free ends)
    exact Nat.le_trans labels (Nat.le_add_left _ 1)

/-! ### Hosts -/

/-- **A host that contains another one has no more labels.** Where they differ in the dot only, they
have the same ones. -/
theorem domainDepth_le_of_hostReaches {outer inner : List Char}
    (reaches : hostReaches outer inner = true) :
    isAddress outer = false ∧ isAddress inner = false ∧ domainDepth outer ≤ domainDepth inner := by
  rw [hostReaches, Bool.and_eq_true, Bool.and_eq_true, Bool.not_eq_true', Bool.not_eq_true']
    at reaches
  obtain ⟨⟨plain, plain'⟩, reaches⟩ := reaches
  refine ⟨plain, plain', ?_⟩
  rw [← domainDepth_dropDot outer, ← domainDepth_dropDot inner]
  split at reaches
  · next same => exact Nat.le_of_eq (domainDepth_eq_of_foldCase_eq same)
  · exact domainDepth_le_of_reaches (Bool.and_eq_true_iff.1 reaches).2

theorem uriDepth?_of_host {uri host : List Char} (found : Uri.host? uri = some host) :
    uriDepth? uri = if isAddress host then none else some (domainDepth host) := by
  rw [uriDepth?, found]

/-! ### Depths and containments -/

namespace NameRelation

/-- **A depth that agrees with a containment.** Names of one key have one depth or none, and a name
that contains another one has a depth, which is no greater than that of the other. -/
structure DepthAgrees {α κ : Type} (key : α → κ) (contains : α → α → Bool)
    (depth? : α → Option Nat) : Prop where
  same {one two : α} (keys : key one = key two) : depth? one = depth? two
  inside {one two : α} (within : contains one two = true) :
    ∃ outer inner, depth? one = some outer ∧ depth? two = some inner ∧ outer ≤ inner

end NameRelation

open NameRelation (DepthAgrees)

theorem domain_depthAgrees : DepthAgrees foldCase domainReaches (some ∘ domainDepth) where
  same keys := congrArg some (domainDepth_eq_of_foldCase_eq keys)
  inside within := ⟨_, _, rfl, rfl, domainDepth_le_of_reaches within⟩

theorem mailbox_depthAgrees : DepthAgrees foldCase mailboxReaches (some ∘ mailboxDepth) where
  same {one two} keys := by
    have depths : mailboxDepth one = mailboxDepth two := by
      rw [← mailboxDepth_foldCase one, keys, mailboxDepth_foldCase]
    exact congrArg some depths
  inside {one two} within := by
    have depths := mailboxDepth_le_of_contains within
    rw [mailboxDepth_foldCase, mailboxDepth_foldCase] at depths
    exact ⟨_, _, rfl, rfl, depths⟩

theorem resource_depthAgrees : DepthAgrees resourceKey resourceReaches uriDepth? where
  same {one two} keys := by
    by_cases missing : Uri.host? one = none ∨ Uri.host? two = none
    · rw [eq_of_resourceKey_eq missing keys]
    · obtain ⟨host, here⟩ := Option.ne_none_iff_exists'.1 fun none => missing (.inl none)
      obtain ⟨host', there⟩ := Option.ne_none_iff_exists'.1 fun none => missing (.inr none)
      rw [resourceKey_of_host here, resourceKey_of_host there] at keys
      have folded := ResourceKey.host.inj keys
      have form : isAddress host = isAddress host' := by
        rw [← isAddress_foldCase host, folded, isAddress_foldCase]
      rw [uriDepth?_of_host here, uriDepth?_of_host there, form,
        domainDepth_eq_of_foldCase_eq folded]
  inside {one two} within := by
    unfold resourceReaches at within
    split at within
    · next host host' here there =>
      obtain ⟨plain, plain', depths⟩ := domainDepth_le_of_hostReaches within
      refine ⟨_, _, ?_, ?_, depths⟩
      · rw [uriDepth?_of_host here, plain, if_neg Bool.false_ne_true]
      · rw [uriDepth?_of_host there, plain', if_neg Bool.false_ne_true]
    · cases within

theorem directory_depthAgrees :
    DepthAgrees Name.canonicalLevels directoryReaches fun name => some name.levels.length where
  same {one two} keys := by
    have lengths := congrArg List.length keys
    rw [Name.canonicalLevels, Name.canonicalLevels, List.length_map, List.length_map] at lengths
    exact congrArg some lengths
  inside {one two} within := by
    have lengths := (Name.isWithin_iff.1 within).length_le
    rw [Name.canonicalLevels, Name.canonicalLevels, List.length_map, List.length_map] at lengths
    exact ⟨_, _, rfl, rfl, lengths⟩

/-! ### General names -/

theorem GeneralName.subtreeDepth_uri (text : String) :
    (GeneralName.uri text).subtreeDepth =
      (uriDepth? text.toList).elim (.error (.unsupported .uri .subtreeDepth)) .ok := by
  unfold subtreeDepth
  dsimp only
  cases uriDepth? text.toList <;> rfl

namespace Comparison

variable {kind : NameKind}

/-- **How deep the names of one form are:** a depth of what they carry that agrees with how they are
compared. -/
structure Depth (comparison : Comparison kind) where
  depth? : comparison.Carried → Option Nat
  subtreeDepth_name (carried : comparison.Carried) :
    (comparison.name carried).subtreeDepth =
      (depth? carried).elim (.error (.unsupported kind .subtreeDepth)) .ok
  of_narrows {one two : comparison.Carried} (narrows : comparison.relation one two = .narrows) :
    ∃ outer inner, depth? one = some outer ∧ depth? two = some inner ∧ outer ≤ inner
  of_same {one two : comparison.Carried} (same : comparison.relation one two = .same) :
    depth? one = depth? two

/-- The depth of a form of names, of which some part is compared by a key and a containment. -/
def Depth.ofBetween {comparison : Comparison kind} {α κ : Type} [BEq κ] [LawfulBEq κ]
    {key : α → κ} {contains : α → α → Bool} {depth? : α → Option Nat}
    (agrees : DepthAgrees key contains depth?) (part : comparison.Carried → α)
    (relation : ∀ one two, comparison.relation one two =
      between key contains (part one) (part two))
    (subtreeDepth_name : ∀ carried, (comparison.name carried).subtreeDepth =
      (depth? (part carried)).elim (.error (.unsupported kind .subtreeDepth)) .ok) :
    comparison.Depth where
  depth? carried := depth? (part carried)
  subtreeDepth_name := subtreeDepth_name
  of_narrows narrows := by
    rw [relation] at narrows
    exact agrees.inside (between_eq_narrows_iff.1 narrows).2
  of_same same := by
    rw [relation] at same
    exact agrees.same (between_eq_same_iff.1 same)

/-- Domains, mailboxes, resources and directory names have depths. -/
theorem exists_depth (form : kind ∈ [.dns, .rfc822, .uri, .directory]) :
    ∃ comparison : Comparison kind, Nonempty comparison.Depth := by
  simp only [List.mem_cons, List.not_mem_nil, or_false] at form
  rcases form with rfl | rfl | rfl | rfl
  · exact ⟨dns, ⟨.ofBetween domain_depthAgrees String.toList
      (fun one two => congrFun₂ domainRelation_eq_between one.toList two.toList) fun _ => rfl⟩⟩
  · exact ⟨rfc822, ⟨.ofBetween mailbox_depthAgrees String.toList
      (fun one two => congrFun₂ mailboxRelation_eq_between one.toList two.toList) fun _ => rfl⟩⟩
  · exact ⟨uri, ⟨.ofBetween resource_depthAgrees String.toList
      (fun one two => congrFun₂ uriRelation_eq_between one.toList two.toList)
      GeneralName.subtreeDepth_uri⟩⟩
  · exact ⟨directory, ⟨.ofBetween directory_depthAgrees id
      (congrFun₂ directoryRelation_eq_between) fun _ => rfl⟩⟩

end Comparison

namespace GeneralName

/-- **Containment agrees with depth,** for domains, mailboxes, resources and directory names. A name
that contains another one has a depth, and so has the other, which is at least as deep. Same names
have the same depth or fail alike. -/
theorem subtreeDepth_of_constrains {one : GeneralName}
    (form : one.kind ∈ [.dns, .rfc822, .uri, .directory]) (two : GeneralName) :
    (one.constrains (some two) = .ok .narrows → ∃ outer inner,
      one.subtreeDepth = .ok outer ∧ two.subtreeDepth = .ok inner ∧ outer ≤ inner) ∧
      (one.constrains (some two) = .ok .same → one.subtreeDepth = two.subtreeDepth) := by
  obtain ⟨comparison, ⟨depth⟩⟩ := Comparison.exists_depth form
  obtain ⟨first, whole⟩ := comparison.exists_name rfl
  constructor
  · intro narrows
    have kinds : one.kind = two.kind := kind_eq_of_constrains narrows nofun
    obtain ⟨second, whole'⟩ := comparison.exists_name kinds.symm
    rw [← whole, ← whole', comparison.constrains_name] at narrows
    obtain ⟨outer, inner, here, there, le⟩ := depth.of_narrows (Except.ok.inj narrows)
    refine ⟨outer, inner, ?_, ?_, le⟩
    · rw [← whole, depth.subtreeDepth_name, here]
      rfl
    · rw [← whole', depth.subtreeDepth_name, there]
      rfl
  · intro same
    have kinds : one.kind = two.kind := kind_eq_of_constrains same nofun
    obtain ⟨second, whole'⟩ := comparison.exists_name kinds.symm
    rw [← whole, ← whole', comparison.constrains_name] at same
    rw [← whole, ← whole', depth.subtreeDepth_name, depth.subtreeDepth_name,
      depth.of_same (Except.ok.inj same)]

/-- A domain with a dot and a mailbox with two at signs and an empty label. Two resources at one
address, which has no depth. -/
theorem subtreeDepth_of_constrains_mailbox :
    let one := GeneralName.rfc822Name ".Example.com"
    let two := GeneralName.rfc822Name "a@b@www..example.COM"
    let three := GeneralName.uri "ldap://user@[::A]:8/x"
    let four := GeneralName.uri "http://[::a]"
    one.constrains (some two) = .ok .narrows ∧
      (∃ outer inner, one.subtreeDepth = .ok outer ∧ two.subtreeDepth = .ok inner ∧
        outer ≤ inner ∧ outer = 2 ∧ inner = 4) ∧
      three.constrains (some four) = .ok .same ∧ three.subtreeDepth = four.subtreeDepth ∧
        four.subtreeDepth = .error (.unsupported .uri .subtreeDepth) := by
  intro one two three four
  have narrows : one.constrains (some two) = .ok .narrows :=
    congrArg Except.ok (by decide +kernel)
  have same : three.constrains (some four) = .ok .same := congrArg Except.ok (by decide +kernel)
  have mailbox : one.kind ∈ [.dns, .rfc822, .uri, .directory] := by decide
  have resource : three.kind ∈ [.dns, .rfc822, .uri, .directory] := by decide
  obtain ⟨inside, -⟩ := subtreeDepth_of_constrains mailbox two
  obtain ⟨-, alike⟩ := subtreeDepth_of_constrains resource four
  obtain ⟨outer, inner, here, there, le⟩ := inside narrows
  have first : one.subtreeDepth = .ok 2 := congrArg Except.ok (by decide +kernel)
  have second : two.subtreeDepth = .ok 4 := congrArg Except.ok (by decide +kernel)
  have none : uriDepth? "http://[::a]".toList = none := by decide +kernel
  refine ⟨narrows, ⟨outer, inner, here, there, le, ?_, ?_⟩, same, alike same, ?_⟩
  · exact Except.ok.inj (here.symm.trans first)
  · exact Except.ok.inj (there.symm.trans second)
  · rw [subtreeDepth_uri, none]
    rfl

end GeneralName

end X509
