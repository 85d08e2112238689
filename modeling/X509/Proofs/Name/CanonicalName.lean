/-
**A name is told by its canonical text.**

The attributes of a level are sorted by an order that depends on their canonical texts alone, so
levels with the same canonical texts, in whatever order, are written alike. In the other direction
the texts are found again between the plus signs, and the levels between the commas, since neither
stands in an attribute without its escape. Hence comparing names level by level, and comparing their
canonical texts, come to the same.

* `Attribute.canonicalCompare_eq_eq_iff`, `Attribute.canonicalCompare_congr` — what the order sees.
* `RelativeName.canonical_eq_iff` — one level.
* `Name.canonicalEq_iff_canonical_eq` — a whole name.
* `Name.canonical_faithful` — names, levels and attributes together.
-/

import Mathlib.Data.Multiset.Basic
import X509.Proofs.Name.CanonicalAttribute

namespace X509

open Text (Guarded)

/-! ### The order of attributes -/

namespace Attribute

open Std

variable {one two one' two' : Attribute}

/-- **The canonical order is a total preorder.** It compares by two keys: first whether there is a
keyword, the other way around, and then the canonical text. -/
instance transCmp_canonicalCompare : TransCmp canonicalCompare :=
  inferInstanceAs (TransCmp (compareLex (fun one two : Attribute => compareOn hasKeyword two one)
    (compareOn fun attr => String.ofList attr.canonical)))

/-- **The order takes two attributes for equal exactly when their canonical texts are.** That the
keyword is compared first makes no difference, since the text tells whether there is one. -/
theorem canonicalCompare_eq_eq_iff :
    one.canonicalCompare two = .eq ↔ one.canonical = two.canonical := by
  unfold canonicalCompare
  rw [Ordering.then_eq_eq, LawfulEqOrd.compare_eq_iff_eq, LawfulEqOrd.compare_eq_iff_eq]
  constructor
  · rintro ⟨-, texts⟩
    exact String.ofList_injective texts
  · intro same
    exact ⟨hasKeyword_eq_of_canonical_eq same.symm, congrArg String.ofList same⟩

/-- The order sees nothing of an attribute but its canonical text. -/
theorem canonicalCompare_congr (same : one.canonical = one'.canonical)
    (same' : two.canonical = two'.canonical) :
    one.canonicalCompare two = one'.canonicalCompare two' := by
  unfold canonicalCompare
  rw [hasKeyword_eq_of_canonical_eq same, hasKeyword_eq_of_canonical_eq same', same, same']

/-- Whether attributes with these canonical texts stand in canonical order. -/
def TextsInOrder (first second : List Char) : Prop :=
  ∀ one two : Attribute, one.canonical = first → two.canonical = second →
    (one.canonicalCompare two).isLE = true

theorem textsInOrder_of_isLE (le : (one.canonicalCompare two).isLE = true) :
    TextsInOrder one.canonical two.canonical := by
  intro one' two' same same'
  rwa [canonicalCompare_congr same same']

theorem canonical_eq_of_textsInOrder (le : TextsInOrder one.canonical two.canonical)
    (ge : TextsInOrder two.canonical one.canonical) : one.canonical = two.canonical := by
  apply canonicalCompare_eq_eq_iff.1
  exact OrientedCmp.isLE_antisymm (le one two rfl rfl) (ge two one rfl rfl)

end Attribute

/-! ### Levels -/

namespace RelativeName

variable {level level' : RelativeName}

/-- **The attributes of a level come out in canonical order.** -/
theorem pairwise_canonicalAttributes (level : RelativeName) :
    level.canonicalAttributes.Pairwise fun one two => (one.canonicalCompare two).isLE = true := by
  apply List.pairwise_mergeSort
  · intro one two three first second
    exact Std.TransCmp.isLE_trans first second
  · intro one two
    have swapped : two.canonicalCompare one = (one.canonicalCompare two).swap :=
      Std.OrientedCmp.eq_swap
    rw [swapped]
    cases one.canonicalCompare two <;> rfl

/-- The canonical texts of the attributes are those of the attributes in canonical order. -/
theorem map_canonicalAttributes_perm (level : RelativeName) :
    (level.canonicalAttributes.map Attribute.canonical).Perm
      (level.attributes.map Attribute.canonical) :=
  level.canonicalAttributes_perm.map Attribute.canonical

/-- Two levels with the same canonical texts have them in the same order after sorting. -/
theorem map_canonicalAttributes_eq_of_perm
    (perm : (level.attributes.map Attribute.canonical).Perm
      (level'.attributes.map Attribute.canonical)) :
    level.canonicalAttributes.map Attribute.canonical =
      level'.canonicalAttributes.map Attribute.canonical := by
  have sorted (level : RelativeName) :
      (level.canonicalAttributes.map Attribute.canonical).Pairwise Attribute.TextsInOrder := by
    rw [List.pairwise_map]
    exact level.pairwise_canonicalAttributes.imp Attribute.textsInOrder_of_isLE
  refine List.Perm.eq_of_pairwise ?_ (sorted level) (sorted level') ?_
  · intro first second member member' le ge
    obtain ⟨one, -, rfl⟩ := List.mem_map.1 member
    obtain ⟨two, -, rfl⟩ := List.mem_map.1 member'
    exact Attribute.canonical_eq_of_textsInOrder le ge
  · calc
      (level.canonicalAttributes.map Attribute.canonical).Perm
          (level.attributes.map Attribute.canonical) := level.map_canonicalAttributes_perm
      List.Perm _ (level'.attributes.map Attribute.canonical) := perm
      List.Perm _ (level'.canonicalAttributes.map Attribute.canonical) :=
        level'.map_canonicalAttributes_perm.symm

/-- **Two levels have the same canonical text exactly when their attributes have the same canonical
texts,** each as often. -/
theorem canonical_eq_iff :
    level.canonical = level'.canonical ↔
      Multiset.ofList (level.attributes.map Attribute.canonical) =
        Multiset.ofList (level'.attributes.map Attribute.canonical) := by
  have pieces (level : RelativeName) :
      ∀ piece ∈ level.canonicalAttributes.map Attribute.canonical,
        Guarded isSpecial piece ∧ piece ≠ [] := by
    intro piece member
    obtain ⟨attr, -, rfl⟩ := List.mem_map.1 member
    exact ⟨attr.guarded_canonical, attr.canonical_ne_nil⟩
  rw [Multiset.coe_eq_coe]
  constructor
  · intro same
    have sorted := Text.join_injective (by decide) (by decide) (pieces level) (pieces level') same
    have perm := level.map_canonicalAttributes_perm.symm
    rw [sorted] at perm
    exact perm.trans level'.map_canonicalAttributes_perm
  · intro perm
    unfold canonical
    rw [map_canonicalAttributes_eq_of_perm perm]

/-- The canonical text of a level holds no comma without its escape. -/
theorem guarded_canonical (level : RelativeName) : Guarded (· == ',') level.canonical := by
  apply Guarded.join (by decide) (by decide)
  intro piece member
  obtain ⟨attr, -, rfl⟩ := List.mem_map.1 member
  apply attr.guarded_canonical.mono
  intro c comma
  rw [eq_of_beq comma]
  decide

theorem canonical_ne_nil (filled : level.attributes ≠ []) : level.canonical ≠ [] := by
  apply Text.join_ne_nil
  · intro none
    have perm := level.map_canonicalAttributes_perm
    rw [none] at perm
    exact filled (List.map_eq_nil_iff.1 perm.nil_eq.symm)
  · intro piece member
    obtain ⟨attr, -, rfl⟩ := List.mem_map.1 member
    exact attr.canonical_ne_nil

end RelativeName

/-! ### Names -/

namespace Name

variable {name other : Name}

/-- **Comparing names level by level, and comparing their canonical texts, come to the same,** if
every level has an attribute. -/
theorem canonicalEq_iff_canonical_eq (filled : ∀ level ∈ name.levels, level.attributes ≠ [])
    (filled' : ∀ level ∈ other.levels, level.attributes ≠ []) :
    name.canonicalEq other = true ↔ name.canonical = other.canonical := by
  have pieces {name : Name} (filled : ∀ level ∈ name.levels, level.attributes ≠ []) :
      ∀ piece ∈ name.levels.reverse.map RelativeName.canonical,
        Guarded (· == ',') piece ∧ piece ≠ [] := by
    intro piece member
    obtain ⟨level, inside, rfl⟩ := List.mem_map.1 member
    have attributes := filled level (List.mem_reverse.1 inside)
    exact ⟨level.guarded_canonical, RelativeName.canonical_ne_nil attributes⟩
  rw [canonicalEq_iff]
  unfold canonicalLevels canonical
  constructor
  · intro same
    rw [List.map_reverse, List.map_reverse, same]
  · intro same
    have levels := Text.join_injective (by rfl) (by decide) (pieces filled) (pieces filled') same
    rw [List.map_reverse, List.map_reverse] at levels
    exact List.reverse_injective levels

/-- **Canonical texts are faithful.** Names that have an attribute on every level are equal level by
level exactly when their texts are equal; the text of a level tells the texts of its attributes but
for their order; and the text of an attribute tells its type and the form of its value. -/
theorem canonical_faithful (name other : Name)
    (filled : ∀ level ∈ name.levels, level.attributes ≠ [])
    (filled' : ∀ level ∈ other.levels, level.attributes ≠ []) :
    (name.canonicalEq other = true ↔ name.canonical = other.canonical) ∧
      (∀ level level' : RelativeName, level.canonical = level'.canonical ↔
        Multiset.ofList (level.attributes.map Attribute.canonical) =
          Multiset.ofList (level'.attributes.map Attribute.canonical)) ∧
      (∀ attr attr' : Attribute, attr.canonical = attr'.canonical →
        attr.type = attr'.type ∧ attr.value.SameForm attr'.value) := by
  refine ⟨canonicalEq_iff_canonical_eq filled filled', ?_, ?_⟩
  · intro level level'
    exact RelativeName.canonical_eq_iff
  · intro attr attr' same
    exact Attribute.alike_of_canonical_eq same

/-- A level with a common name that has a plus sign in it, and an organization. -/
def plusLevel : RelativeName :=
  ⟨[⟨⟨[2, 5, 4, 3]⟩, .text ⟨.utf8, "A+B"⟩⟩, ⟨⟨[2, 5, 4, 10]⟩, .text ⟨.printable, "x"⟩⟩]⟩

/-- The same level in another order, with other capitals, blanks and string types. -/
def plusLevelPermuted : RelativeName :=
  ⟨[⟨⟨[2, 5, 4, 10]⟩, .text ⟨.ia5, "  X "⟩⟩, ⟨⟨[2, 5, 4, 3]⟩, .text ⟨.bmp, "a+b"⟩⟩]⟩

/-- A plus sign inside a value does not end the attribute, and the order of attributes is free. -/
theorem canonical_faithful_plusLevel :
    plusLevel.attributes ≠ [] ∧ plusLevelPermuted.attributes ≠ [] ∧
      plusLevel.attributes.map Attribute.canonical = ["cn=a\\+b".toList, "o=x".toList] ∧
      (Name.mk [plusLevel]).canonical = (Name.mk [plusLevelPermuted]).canonical ∧
      (Name.mk [plusLevel]).canonicalEq (Name.mk [plusLevelPermuted]) = true := by
  have filled : plusLevel.attributes ≠ [] := by decide
  have filled' : plusLevelPermuted.attributes ≠ [] := by decide
  obtain ⟨names, levels, -⟩ := canonical_faithful ⟨[plusLevel]⟩ ⟨[plusLevelPermuted]⟩
    (List.forall_mem_singleton.2 filled) (List.forall_mem_singleton.2 filled')
  have texts : plusLevel.attributes.map Attribute.canonical =
      ["cn=a\\+b".toList, "o=x".toList] := by decide +kernel
  have texts' : plusLevelPermuted.attributes.map Attribute.canonical =
      ["o=x".toList, "cn=a\\+b".toList] := by decide +kernel
  have level : plusLevel.canonical = plusLevelPermuted.canonical := by
    rw [levels, texts, texts']
    exact Multiset.coe_eq_coe.2 (List.Perm.swap _ _ _)
  have same : (Name.mk [plusLevel]).canonical = (Name.mk [plusLevelPermuted]).canonical := by
    simp only [canonical, List.reverse_singleton, List.map_singleton, level]
  exact ⟨filled, filled', texts, same, names.2 same⟩

end Name

end X509
