/-
**Domains by their labels.**

The text of a domain is its labels with a dot before each of them, but for the first dot, which may
be missing. Texts of that shape end each other where their lists of labels do, so a comparison of
texts at the boundary of a label is one of lists: a domain contains another that has more labels in
front, or the same labels and a dot that the first does not have.

* `withDots_suffix_iff` — labels with dots end each other as the lists do.
* `domainContains_iff_labels` — containment of domains by their labels.
* `GeneralName.constrains_dns_means` — the relation of two domains by their labels.
-/

import X509.Proofs.Constraint.Forms

namespace X509

open NameRelation (Means means_between)

/-! ### Ends of texts -/

/-- A text ends another behind a character when the two together end it. -/
theorem cons_suffix_iff {c : Char} {back text : List Char} :
    c :: back <:+ text ↔ back <:+ text ∧ charBefore? back text = some c := by
  constructor
  · rintro ⟨front, rfl⟩
    have whole : front ++ c :: back = (front ++ [c]) ++ back := by
      rw [List.append_assoc, List.singleton_append]
    rw [whole, charBefore?_append, List.getLast?_concat]
    exact ⟨List.suffix_append (front ++ [c]) back, rfl⟩
  · rintro ⟨⟨front, rfl⟩, before⟩
    rw [charBefore?_append] at before
    obtain ⟨more, rfl⟩ := List.getLast?_eq_some_iff.1 before
    exact ⟨more, by rw [List.append_assoc, List.singleton_append]⟩

/-- A text with a character in front ends in all that ends the text, and in itself. -/
theorem suffix_iff_suffix_cons {c : Char} {back text : List Char} :
    back <:+ text ↔ back <:+ c :: text ∧ back ≠ c :: text := by
  constructor
  · intro ends
    refine ⟨ends.trans (List.suffix_cons c text), ?_⟩
    rintro rfl
    exact absurd ends.length_le (by simp)
  · rintro ⟨ends, differs⟩
    exact (List.suffix_cons_iff.1 ends).resolve_left differs

/-- Lists that end each other but are not the same. -/
def IsProperSuffix {α : Type} (back whole : List α) : Prop :=
  back <:+ whole ∧ back ≠ whole

/-! ### Labels and dots -/

/-- Labels with a dot before each of them. -/
def withDots (labels : List (List Char)) : List Char :=
  labels.flatMap ('.' :: ·)

theorem withDots_cons (label : List Char) (labels : List (List Char)) :
    withDots (label :: labels) = '.' :: (label ++ withDots labels) :=
  rfl

theorem withDots_append (front back : List (List Char)) :
    withDots (front ++ back) = withDots front ++ withDots back :=
  List.flatMap_append

theorem withDots_splitOn (text : List Char) :
    withDots (Text.splitOn '.' text) = '.' :: text := by
  unfold Text.splitOn
  induction text with
  | nil => rfl
  | cons c rest ih =>
    rw [Text.splitWhere]
    split
    · next dot => rw [withDots_cons, ih, List.nil_append, eq_of_beq dot]
    · cases shape : Text.splitWhere (· == '.') rest with
      | nil => exact absurd shape (Text.splitWhere_ne_nil _ _)
      | cons piece pieces =>
        rw [shape, withDots_cons, List.cons.injEq] at ih
        rw [withDots_cons, List.cons_append, ih.2]

/-- The labels are found again behind an empty piece. -/
theorem splitOn_withDots {labels : List (List Char)} (free : ∀ label ∈ labels, '.' ∉ label) :
    Text.splitOn '.' (withDots labels) = [] :: labels := by
  induction labels with
  | nil => rfl
  | cons label labels ih =>
    obtain ⟨here, others⟩ := List.forall_mem_cons.1 free
    have apart := Text.splitOn_append (List.not_mem_nil (a := '.')) (label ++ withDots labels)
    rw [withDots_cons, ← List.nil_append ('.' :: _), apart]
    cases labels with
    | nil => rw [withDots, List.flatMap_nil, List.append_nil, Text.splitOn_of_not_mem here]
    | cons next labels =>
      have rest := ih others
      rw [withDots_cons, ← List.nil_append ('.' :: _),
        Text.splitOn_append (List.not_mem_nil (a := '.'))] at rest
      rw [withDots_cons, Text.splitOn_append here, (List.cons.inj rest).2]

/-- **Labels with dots end each other where the lists of labels do.** -/
theorem withDots_suffix_iff {back whole : List (List Char)} (free : ∀ label ∈ back, '.' ∉ label)
    (free' : ∀ label ∈ whole, '.' ∉ label) :
    withDots back <:+ withDots whole ↔ back <:+ whole := by
  constructor
  · rintro ⟨front, text⟩
    cases back with
    | nil => exact List.nil_suffix
    | cons label labels =>
      obtain ⟨pieces, split, filled⟩ :=
        Text.splitOn_append_cons '.' front (label ++ withDots labels)
      have found := splitOn_withDots free
      rw [withDots_cons, ← List.nil_append ('.' :: _),
        Text.splitOn_append (List.not_mem_nil (a := '.'))] at found
      rw [← withDots_cons, text, splitOn_withDots free', (List.cons.inj found).2] at split
      cases pieces with
      | nil => exact absurd rfl filled
      | cons piece pieces => exact ⟨pieces, (List.cons.inj split).2.symm⟩
  · rintro ⟨front, rfl⟩
    exact ⟨withDots front, (withDots_append front back).symm⟩

/-- Different labels make different texts. -/
theorem withDots_inj {one two : List (List Char)} (free : ∀ label ∈ one, '.' ∉ label)
    (free' : ∀ label ∈ two, '.' ∉ label) : withDots one = withDots two ↔ one = two := by
  refine ⟨fun texts => ?_, congrArg withDots⟩
  have split := congrArg (Text.splitOn '.') texts
  rw [splitOn_withDots free, splitOn_withDots free'] at split
  exact (List.cons.inj split).2

/-! ### The labels of a domain -/

theorem mem_labels_iff {domain label : List Char} :
    label ∈ labels domain ↔ label ∈ Text.splitOn '.' domain ∧ label ≠ [] := by
  rw [labels, List.mem_filter, Bool.not_eq_true', List.isEmpty_eq_false_iff]

theorem not_dot_mem_of_mem_labels {domain label : List Char} (member : label ∈ labels domain) :
    '.' ∉ label := by
  intro inside
  have other := Text.forall_mem_splitWhere (mem_labels_iff.1 member).1 '.' inside
  exact absurd other (by decide)

theorem labels_dropDot (text : List Char) : labels (dropDot text) = labels text := by
  unfold dropDot
  split <;> rfl

/-- The labels of a domain in lower case. -/
def lowerLabels (domain : List Char) : List (List Char) :=
  (labels domain).map foldCase

theorem labels_foldCase (domain : List Char) : labels (foldCase domain) = lowerLabels domain := by
  have keeps (c : Char) : (c.toLower == '.') = (c == '.') := by
    rw [Bool.eq_iff_iff, beq_iff_eq, beq_iff_eq]
    exact toLower_eq_iff rfl
  have kept : ((fun piece : List Char => !piece.isEmpty) ∘ List.map Char.toLower) =
      fun piece => !piece.isEmpty := funext fun _ => congrArg Bool.not List.isEmpty_map
  rw [labels, Text.splitOn, foldCase, Text.splitWhere_map keeps, List.filter_map, kept]
  rfl

/-- A domain without a dot in front whose labels are all of it: none of them is empty. -/
def IsLabelled (domain : List Char) : Prop :=
  withDots (labels domain) = '.' :: domain

theorem IsLabelled.foldCase {domain : List Char} (labelled : IsLabelled domain) :
    IsLabelled (foldCase domain) := by
  have lowered (labels : List (List Char)) :
      withDots (labels.map X509.foldCase) = X509.foldCase (withDots labels) := by
    unfold withDots X509.foldCase
    rw [List.flatMap_map, List.map_flatMap]
    rfl
  unfold IsLabelled at labelled ⊢
  rw [labels_foldCase, lowerLabels, lowered, labelled]
  rfl

/-- What an asterisk has and every label, the labels that make up a domain have. -/
theorem forall_of_areLabels {holds : List Char → Prop} {pieces : List (List Char)}
    (star : holds ['*']) (label : ∀ piece, isLabel piece = true → holds piece)
    (valid : areLabels pieces = true) : ∀ piece ∈ pieces, holds piece := by
  cases pieces with
  | nil => cases valid
  | cons first rest =>
    obtain ⟨here, others⟩ := Bool.and_eq_true_iff.1 valid
    refine List.forall_mem_cons.2 ⟨?_, fun piece member => ?_⟩
    · rcases Bool.or_eq_true_iff.1 here with asterisk | valid
      · rw [eq_of_beq asterisk]
        exact star
      · exact label first valid
    · exact label piece (List.all_eq_true.1 others piece member)

/-- Labels that make up a domain are not empty. -/
theorem ne_nil_of_areLabels {pieces : List (List Char)} (valid : areLabels pieces = true) :
    ∀ piece ∈ pieces, piece ≠ [] := by
  refine forall_of_areLabels (List.cons_ne_nil _ _) (fun piece label => ?_) valid
  rintro rfl
  cases label

/-- **A text that is a domain consists of its labels.** -/
theorem isLabelled_of_plain {text : List Char} (domain : isDomain .plain text = true) :
    IsLabelled text := by
  have pieces := (Bool.and_eq_true_iff.1 domain).2
  have whole : labels text = Text.splitOn '.' text := by
    refine List.filter_eq_self.2 fun piece member => ?_
    rw [Bool.not_eq_true', List.isEmpty_eq_false_iff]
    exact ne_nil_of_areLabels pieces piece member
  rw [IsLabelled, whole, withDots_splitOn]

/-- In the base of a subtree a dot may stand in front of them. -/
theorem isLabelled_of_isDomain {text : List Char} (domain : isDomain .subtree text = true) :
    IsLabelled (dropDot text) :=
  isLabelled_of_plain domain

/-- Labels that make up a domain end it where they end its labels, and are all of its text only if
that starts with a dot. -/
theorem withDots_suffix_domain_iff {pieces : List (List Char)} {text : List Char}
    (free : ∀ label ∈ pieces, '.' ∉ label) (labelled : IsLabelled (dropDot text)) :
    withDots pieces <:+ text ↔
      pieces <:+ labels text ∧ (pieces = labels text → startsWithDot text = true) := by
  have free' : ∀ label ∈ labels text, '.' ∉ label := fun _ => not_dot_mem_of_mem_labels
  rw [IsLabelled, labels_dropDot] at labelled
  rw [← withDots_suffix_iff free free', labelled]
  cases dotted : startsWithDot text with
  | true => simp only [← eq_dot_cons_dropDot dotted, implies_true, and_true]
  | false =>
    rw [dropDot_eq_self dotted] at labelled ⊢
    rw [← withDots_inj free free', labelled, suffix_iff_suffix_cons (c := '.')]
    simp only [Bool.false_eq_true, imp_false, ne_eq]

/-! ### Containment -/

/-- A domain ends another at the boundary of a label when it does so with a dot in front. -/
theorem domainContains_iff_suffix {outer inner : List Char} (labelled : IsLabelled (dropDot outer))
    (labelled' : IsLabelled (dropDot inner)) :
    domainContains outer inner = true ↔ '.' :: dropDot outer <:+ inner := by
  rw [domainContains_iff, startsAtLabel, ← startsWithDot]
  cases dotted : startsWithDot outer with
  | false =>
    rw [dropDot_eq_self dotted, cons_suffix_iff, Bool.xor_false, beq_iff_eq]
  | true =>
    rw [← eq_dot_cons_dropDot dotted, Bool.xor_true, Bool.not_eq_true', beq_eq_false_iff_ne]
    refine ⟨And.left, fun ends => ⟨ends, fun before => ?_⟩⟩
    -- two dots in a row would stand around an empty label
    have free : ∀ label ∈ [] :: labels outer, '.' ∉ label :=
      List.forall_mem_cons.2 ⟨List.not_mem_nil, fun _ => not_dot_mem_of_mem_labels⟩
    have twice : withDots ([] :: labels outer) <:+ inner := by
      rw [withDots_cons, List.nil_append, ← labels_dropDot, labelled, ← eq_dot_cons_dropDot dotted]
      exact cons_suffix_iff.2 ⟨ends, before⟩
    have empty := ((withDots_suffix_domain_iff free labelled').1 twice).1.subset List.mem_cons_self
    exact (mem_labels_iff.1 empty).2 rfl

/-- **A domain contains another that ends in its labels.** If it has no more labels than that, a dot
must stand in front of them. -/
theorem domainContains_iff_labels {outer inner : List Char} (labelled : IsLabelled (dropDot outer))
    (labelled' : IsLabelled (dropDot inner)) :
    domainContains outer inner = true ↔ labels outer <:+ labels inner ∧
      (labels outer = labels inner → startsWithDot inner = true) := by
  have free : ∀ label ∈ labels outer, '.' ∉ label := fun _ => not_dot_mem_of_mem_labels
  have whole : '.' :: dropDot outer = withDots (labels outer) := by
    rw [← labels_dropDot, labelled]
  rw [domainContains_iff_suffix labelled labelled', whole,
    withDots_suffix_domain_iff free labelled']

/-- Domains with the same labels and the same dot are the same. -/
theorem eq_iff_labels_eq {one two : List Char} (labelled : IsLabelled (dropDot one))
    (labelled' : IsLabelled (dropDot two)) :
    one = two ↔ labels one = labels two ∧ startsWithDot one = startsWithDot two := by
  refine ⟨fun same => by rw [same]; exact ⟨rfl, rfl⟩, fun ⟨same, dots⟩ => ?_⟩
  rw [IsLabelled, labels_dropDot] at labelled labelled'
  rw [same, labelled', List.cons.injEq] at labelled
  exact eq_of_dropDot_eq dots labelled.2.symm

/-- Whether a domain lies below another: it has labels in front of those of the other, or the same
ones and a dot that the other does not have. -/
def LiesBelow (outer inner : List Char) : Prop :=
  IsProperSuffix (lowerLabels outer) (lowerLabels inner) ∨
    lowerLabels outer = lowerLabels inner ∧ startsWithDot inner = true ∧
      startsWithDot outer = false

/-- **A domain contains those that lie below it.** -/
theorem domainReaches_iff_liesBelow {outer inner : List Char}
    (labelled : IsLabelled (dropDot outer)) (labelled' : IsLabelled (dropDot inner)) :
    foldCase outer ≠ foldCase inner ∧ domainReaches outer inner = true ↔
      LiesBelow outer inner := by
  have lowered := dropDot_foldCase outer ▸ labelled.foldCase
  have lowered' := dropDot_foldCase inner ▸ labelled'.foldCase
  rw [domainReaches, domainContains_iff_labels lowered lowered', Ne,
    eq_iff_labels_eq lowered lowered', labels_foldCase, labels_foldCase, startsWithDot_foldCase,
    startsWithDot_foldCase, LiesBelow, IsProperSuffix]
  by_cases same : lowerLabels outer = lowerLabels inner
  · cases startsWithDot outer <;> cases startsWithDot inner <;> simp [same]
  · simp [same]

namespace GeneralName

/-- **The relation of two domains is that of their labels.** Domains are the same when their labels
and their dots are, and narrow when the second lies below the first. -/
theorem constrains_dns_means {one two : String} (domain : isDomain .subtree one.toList = true)
    (domain' : isDomain .subtree two.toList = true) :
    ∃ relation, (GeneralName.dnsName one).constrains (some (.dnsName two)) = .ok relation ∧
      Means relation
        (lowerLabels one.toList = lowerLabels two.toList ∧
          startsWithDot one.toList = startsWithDot two.toList)
        (LiesBelow one.toList two.toList) (LiesBelow two.toList one.toList) := by
  have labelled := isLabelled_of_isDomain domain
  have labelled' := isLabelled_of_isDomain domain'
  have lowered := dropDot_foldCase one.toList ▸ labelled.foldCase
  have lowered' := dropDot_foldCase two.toList ▸ labelled'.foldCase
  refine ⟨_, rfl, ?_⟩
  rw [domainRelation_eq_between]
  refine means_between domain_isContainment ?_ (domainReaches_iff_liesBelow labelled labelled')
    (domainReaches_iff_liesBelow labelled' labelled)
  rw [eq_iff_labels_eq lowered lowered', labels_foldCase, labels_foldCase, startsWithDot_foldCase,
    startsWithDot_foldCase]

/-- The same labels with a dot and without, and labels that only look alike at their end. -/
theorem constrains_dns_means_dotted :
    let one := GeneralName.dnsName "Example.com"
    let two := GeneralName.dnsName ".example.COM"
    let three := GeneralName.dnsName "*.badexample.com"
    one.constrains (some two) = .ok .narrows ∧ two.constrains (some three) = .ok .sameType := by
  intro one two three
  have domain : isDomain .subtree "Example.com".toList = true := by decide +kernel
  have domain' : isDomain .subtree ".example.COM".toList = true := by decide +kernel
  have domain'' : isDomain .subtree "*.badexample.com".toList = true := by decide +kernel
  obtain ⟨relation, outer, means⟩ := constrains_dns_means domain domain'
  obtain ⟨relation', inner, means'⟩ := constrains_dns_means domain' domain''
  have below : LiesBelow "Example.com".toList ".example.COM".toList :=
    .inr (by decide +kernel)
  refine ⟨?_, ?_⟩
  · rw [← means.narrows_iff.2 below]
    exact outer
  · rw [← means'.sameType_iff.2 ?_]
    · exact inner
    · unfold LiesBelow IsProperSuffix
      decide +kernel

end GeneralName

end X509
