/-
**The order of the attributes of a level.**

The canonical order compares two attributes by whether they have a keyword, the other way around,
and then by their canonical texts. It is a total preorder that takes for equal what has the same
text, and a level sorted by it falls into two stretches, the attributes with a keyword and the
others, each in the lexicographic order of the texts.

* `Attribute.isLE_canonicalCompare_iff` — what the order says of two attributes.
* `filter_append_filter_not` — a list in which nothing chosen follows anything not chosen.
* `RelativeName.canonicalAttributes_split` — the two stretches of a level.
* `RelativeName.canonicalAttributes_ordered` — the order and the sorting together.
-/

import Mathlib.Data.String.Basic
import X509.Proofs.Name.CanonicalName

namespace X509

open Std

/-! ### Two attributes -/

namespace Attribute

variable {one two : Attribute}

/-- **One attribute may stand before another** if it has a keyword or the other has none, and, where
they do not differ in that, its canonical text is not the greater. -/
theorem isLE_canonicalCompare_iff :
    (one.canonicalCompare two).isLE = true ↔
      (two.hasKeyword = true → one.hasKeyword = true) ∧
        (one.hasKeyword = two.hasKeyword → one.canonical ≤ two.canonical) := by
  have texts : (compare (String.ofList one.canonical) (String.ofList two.canonical)).isLE = true ↔
      one.canonical ≤ two.canonical := by
    rw [LawfulLECmp.isLE_iff_le, String.le_iff_toList_le, String.toList_ofList,
      String.toList_ofList]
  have before : compare false true = Ordering.lt := rfl
  have after : compare true false = Ordering.gt := rfl
  unfold canonicalCompare
  rw [Ordering.isLE_then_iff_or, texts]
  cases one.hasKeyword <;> cases two.hasKeyword <;> simp [before, after]

end Attribute

/-! ### Levels -/

/-- Where nothing chosen follows anything not chosen, the chosen are the first part of a list. -/
theorem filter_append_filter_not {α : Type} {chosen : α → Bool} {list : List α}
    (ordered : list.Pairwise fun one two => chosen two = true → chosen one = true) :
    list.filter chosen ++ list.filter (fun item => !chosen item) = list := by
  induction list with
  | nil => rfl
  | cons first rest ih =>
    obtain ⟨before, ordered⟩ := List.pairwise_cons.1 ordered
    by_cases here : chosen first = true
    · rw [List.filter_cons_of_pos here, List.filter_cons_of_neg (by simp [here]), List.cons_append,
        ih ordered]
    · have others : ∀ item ∈ first :: rest, ¬ chosen item = true :=
        List.forall_mem_cons.2 ⟨here, fun item member chosen => here (before item member chosen)⟩
      rw [List.filter_eq_nil_iff.2 others, List.nil_append, List.filter_eq_self]
      intro item member
      simp [others item member]

namespace RelativeName

/-- The attributes of a stretch that agree in having a keyword come in the order of their texts. -/
theorem pairwise_canonical_filter (level : RelativeName) {chosen : Attribute → Bool}
    (agree : ∀ one two, chosen one = true → chosen two = true → one.hasKeyword = two.hasKeyword) :
    (level.canonicalAttributes.filter chosen).Pairwise fun one two =>
      one.canonical ≤ two.canonical := by
  refine (level.pairwise_canonicalAttributes.filter chosen).imp_of_mem ?_
  intro one two member member' le
  have same := agree one two (List.of_mem_filter member) (List.of_mem_filter member')
  exact (Attribute.isLE_canonicalCompare_iff.1 le).2 same

/-- **A sorted level is two stretches:** the attributes with a keyword, and then the others, both in
the order of their canonical texts. -/
theorem canonicalAttributes_split (level : RelativeName) :
    ∃ keyed others : List Attribute, level.canonicalAttributes = keyed ++ others ∧
      (∀ attr ∈ keyed, attr.hasKeyword = true) ∧ (∀ attr ∈ others, attr.hasKeyword = false) ∧
      keyed.Pairwise (fun one two => one.canonical ≤ two.canonical) ∧
      others.Pairwise (fun one two => one.canonical ≤ two.canonical) := by
  refine ⟨level.canonicalAttributes.filter Attribute.hasKeyword,
    level.canonicalAttributes.filter fun attr => !attr.hasKeyword, ?_, ?_, ?_, ?_, ?_⟩
  · refine (filter_append_filter_not (level.pairwise_canonicalAttributes.imp ?_)).symm
    intro one two le
    exact (Attribute.isLE_canonicalCompare_iff.1 le).1
  · intro attr member
    exact List.of_mem_filter member
  · intro attr member
    simpa using List.of_mem_filter member
  · exact level.pairwise_canonical_filter fun one two first second => first.trans second.symm
  · exact level.pairwise_canonical_filter (by simp_all)

/-- **The order of attributes is a total preorder in which equal means equal texts, and sorting a
level obeys it:** nothing is lost or added, attributes with a keyword come first, and the texts in
each of the two stretches do not descend. -/
theorem canonicalAttributes_ordered :
    (∀ one two : Attribute, one.canonicalCompare two = (two.canonicalCompare one).swap) ∧
      (∀ one two three : Attribute, (one.canonicalCompare two).isLE = true →
        (two.canonicalCompare three).isLE = true → (one.canonicalCompare three).isLE = true) ∧
      (∀ one two : Attribute, one.canonicalCompare two = .eq ↔ one.canonical = two.canonical) ∧
      ∀ level : RelativeName, level.canonicalAttributes.Perm level.attributes ∧
        ∃ keyed others : List Attribute, level.canonicalAttributes = keyed ++ others ∧
          (∀ attr ∈ keyed, attr.hasKeyword = true) ∧ (∀ attr ∈ others, attr.hasKeyword = false) ∧
          keyed.Pairwise (fun one two => one.canonical ≤ two.canonical) ∧
          others.Pairwise (fun one two => one.canonical ≤ two.canonical) := by
  refine ⟨?_, ?_, ?_, ?_⟩
  · intro one two
    exact OrientedCmp.eq_swap
  · intro one two three first second
    exact TransCmp.isLE_trans first second
  · intro one two
    exact Attribute.canonicalCompare_eq_eq_iff
  · intro level
    exact ⟨level.canonicalAttributes_perm, level.canonicalAttributes_split⟩

/-- A common name. -/
def commonName : Attribute :=
  ⟨⟨[2, 5, 4, 3]⟩, .text ⟨.utf8, "c"⟩⟩

/-- An organization. -/
def organization : Attribute :=
  ⟨⟨[2, 5, 4, 10]⟩, .text ⟨.utf8, "b"⟩⟩

/-- A title, whose type has no keyword. -/
def title : Attribute :=
  ⟨⟨[2, 5, 4, 12]⟩, .text ⟨.utf8, "a"⟩⟩

/-- The text of the title is the least of the three, and yet the title comes last. -/
theorem canonicalAttributes_ordered_title :
    (commonName.canonicalCompare organization).isLE = true ∧
      (organization.canonicalCompare title).isLE = true ∧
      (commonName.canonicalCompare title).isLE = true ∧ title.canonical ≤ commonName.canonical ∧
      (RelativeName.mk [title, organization, commonName]).canonicalAttributes =
        [commonName, organization, title] := by
  obtain ⟨reverse, trans, -⟩ := canonicalAttributes_ordered
  have first : commonName.canonicalCompare organization = .lt := by decide +kernel
  have second : organization.canonicalCompare title = .lt := by decide +kernel
  have sorted : (RelativeName.mk [title, organization, commonName]).canonicalAttributes =
      [commonName, organization, title] := by
    have first' := reverse organization commonName
    have second' := reverse title organization
    rw [first] at first'
    rw [second] at second'
    simp [canonicalAttributes, List.mergeSort, List.MergeSort.Internal.splitInTwo, first', second']
  have le : (commonName.canonicalCompare title).isLE = true :=
    trans _ organization _ (Ordering.isLE_of_eq_lt first) (Ordering.isLE_of_eq_lt second)
  exact ⟨Ordering.isLE_of_eq_lt first, Ordering.isLE_of_eq_lt second, le, by decide +kernel, sorted⟩

end RelativeName

end X509
