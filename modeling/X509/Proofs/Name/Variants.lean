/-
**What canonical names leave out.**

A level of a name may be rewritten in small steps: its attributes put in another order, or one text
value given another string type, other capitals among its ASCII letters, or other blanks around and
between its words. Each step keeps the canonical text of the level, so any number of them does, and
names whose levels are rewritten so are one name for every comparison. Where all texts are ASCII
nothing else is left out: there are steps from a level to every other with its canonical text.

* `Attribute.Step`, `RelativeName.Step` — the steps.
* `Attribute.canonical_eq_of_step`, `RelativeName.canonical_eq_of_step` — what a step keeps.
* `RelativeName.Variant`, `RelativeName.canonical_eq_of_variant` — any number of steps.
* `Attribute.steps_of_canonical_eq`, `RelativeName.variant_of_canonical_eq` — the steps from ASCII
  texts to others.
* `Name.canonical_of_variants` — whole names, both ways.
-/

import Mathlib.Data.List.Perm.Basic
import Mathlib.Logic.Relation
import X509.Proofs.Name.CanonicalName
import X509.Proofs.Name.CanonicalText
import X509.Proofs.Outcome

namespace X509

/-! ### Attributes -/

/-- **One change of a text value:** of its string type, of capitals, or of blanks around and between
its words. -/
inductive Attribute.Step : Attribute → Attribute → Prop where
  | kind (type : ObjectIdentifier) (text : String) (kind kind' : StringKind) :
      Step ⟨type, .text ⟨kind, text⟩⟩ ⟨type, .text ⟨kind', text⟩⟩
  | case (type : ObjectIdentifier) (kind : StringKind) (text text' : String)
      (same : foldCase text.toList = foldCase text'.toList) :
      Step ⟨type, .text ⟨kind, text⟩⟩ ⟨type, .text ⟨kind, text'⟩⟩
  | blanks (type : ObjectIdentifier) (kind : StringKind) (text text' : String)
      (same : Text.words text.toList = Text.words text'.toList) :
      Step ⟨type, .text ⟨kind, text⟩⟩ ⟨type, .text ⟨kind, text'⟩⟩

/-- Texts with the same canonical form make the same attribute, whatever their string types. -/
theorem Attribute.canonical_eq_of_text {type : ObjectIdentifier} {string string' : DirectoryString}
    (same : canonicalText string.text.toList = canonicalText string'.text.toList) :
    (Attribute.mk type (.text string)).canonical =
      (Attribute.mk type (.text string')).canonical := by
  unfold canonical
  exact congrArg (fun value => _ ++ '=' :: value) same

/-- **A step keeps the canonical text of an attribute.** -/
theorem Attribute.canonical_eq_of_step {attr attr' : Attribute} (step : attr.Step attr') :
    attr.canonical = attr'.canonical := by
  cases step with
  | kind type text kind kind' => rfl
  | case type kind text text' same =>
    apply canonical_eq_of_text
    rw [← canonicalText_foldCase, same, canonicalText_foldCase]
  | blanks type kind text text' same =>
    apply canonical_eq_of_text
    rw [canonicalText, same, ← canonicalText]

/-- The text in small letters. -/
def DirectoryString.folded (string : DirectoryString) : String :=
  String.ofList (foldCase string.text.toList)

theorem DirectoryString.foldCase_folded (string : DirectoryString) :
    foldCase string.folded.toList = foldCase string.text.toList := by
  rw [folded, String.toList_ofList, foldCase_foldCase]

/-- Whether the text of an attribute is ASCII, if its value is a text. -/
def Attribute.isAscii (attr : Attribute) : Bool :=
  attr.text?.all fun text => text.toList.all fun c => c.toNat < 0x80

theorem Attribute.toNat_lt_of_isAscii {type : ObjectIdentifier} {string : DirectoryString}
    (ascii : (Attribute.mk type (.text string)).isAscii = true) :
    ∀ c ∈ string.text.toList, c.toNat < 0x80 := by
  intro c member
  exact of_decide_eq_true (List.all_eq_true.1 ascii c member)

/-- **From one ASCII text to another with the same canonical form there are steps:** to the string
type of the other, to small letters, to the words of the other, and to its capitals. -/
theorem Attribute.steps_of_canonical_eq {attr attr' : Attribute} (ascii : attr.isAscii = true)
    (ascii' : attr'.isAscii = true) (same : attr.canonical = attr'.canonical) :
    Relation.ReflTransGen Step attr attr' := by
  obtain ⟨type, value⟩ := attr
  obtain ⟨type', value'⟩ := attr'
  obtain ⟨rfl, form⟩ : type = type' ∧ value.SameForm value' := alike_of_canonical_eq same
  have values := (parts_eq_of_canonical_eq same).2
  cases form with
  | encoded octets => exact .refl
  | text string string' =>
    have words : Text.words string.folded.toList = Text.words string'.folded.toList := by
      have letters := toNat_lt_of_isAscii ascii
      have letters' := toNat_lt_of_isAscii ascii'
      rw [DirectoryString.folded, DirectoryString.folded, String.toList_ofList,
        String.toList_ofList]
      exact (canonicalText_eq_iff_of_ascii letters letters').1 values
    calc Relation.ReflTransGen Step ⟨type, .text string⟩
          ⟨type, .text ⟨string'.kind, string.text⟩⟩ :=
            .single (.kind type string.text string.kind string'.kind)
      Relation.ReflTransGen Step _ ⟨type, .text ⟨string'.kind, string.folded⟩⟩ :=
            .single (.case type string'.kind _ _ string.foldCase_folded.symm)
      Relation.ReflTransGen Step _ ⟨type, .text ⟨string'.kind, string'.folded⟩⟩ :=
            .single (.blanks type string'.kind _ _ words)
      Relation.ReflTransGen Step _ ⟨type, .text string'⟩ :=
            .single (.case type string'.kind _ _ string'.foldCase_folded)

/-! ### Levels -/

namespace RelativeName

variable {level level' : RelativeName}

/-- **One change of a level:** of the order of its attributes, or of one text value among them. -/
inductive Step : RelativeName → RelativeName → Prop where
  | permute {attributes attributes' : List Attribute} (perm : attributes.Perm attributes') :
      Step ⟨attributes⟩ ⟨attributes'⟩
  | change (front : List Attribute) {attr attr' : Attribute} (back : List Attribute)
      (step : attr.Step attr') : Step ⟨front ++ attr :: back⟩ ⟨front ++ attr' :: back⟩

/-- **What a level becomes by changes,** however many and in whatever order. -/
def Variant : RelativeName → RelativeName → Prop :=
  Relation.ReflTransGen Step

/-- **A step keeps the canonical text of a level.** -/
theorem canonical_eq_of_step (step : level.Step level') : level.canonical = level'.canonical := by
  rw [canonical_eq_iff]
  cases step with
  | permute perm => exact Multiset.coe_eq_coe.2 (perm.map Attribute.canonical)
  | change front back step =>
    rw [List.map_append, List.map_append, List.map_cons, List.map_cons,
      Attribute.canonical_eq_of_step step]

/-- **Variants of a level have its canonical text.** -/
theorem canonical_eq_of_variant (variant : level.Variant level') :
    level.canonical = level'.canonical := by
  induction variant with
  | refl => rfl
  | tail run step ih => exact ih.trans (canonical_eq_of_step step)

/-- An attribute may be changed more than once. -/
theorem variant_of_attribute {attr attr' : Attribute}
    (changes : Relation.ReflTransGen Attribute.Step attr attr') (front back : List Attribute) :
    Variant ⟨front ++ attr :: back⟩ ⟨front ++ attr' :: back⟩ := by
  induction changes with
  | refl => exact .refl
  | tail _ step ih => exact ih.tail (.change front back step)

/-- All attributes of a level may be changed, one after the other. -/
theorem variant_of_attributes {attributes attributes' : List Attribute}
    (changes : List.Forall₂ (Relation.ReflTransGen Attribute.Step) attributes attributes')
    (front : List Attribute) : Variant ⟨front ++ attributes⟩ ⟨front ++ attributes'⟩ := by
  induction changes generalizing front with
  | nil => exact .refl
  | @cons attr attr' attributes attributes' first _ ih =>
    have others := ih (front ++ [attr'])
    rw [← List.append_cons, ← List.append_cons] at others
    exact (variant_of_attribute first front attributes).trans others

/-- **Levels of ASCII texts with the same canonical text are variants.** The attributes of one are
paired with those of the other by canonical texts, changed into them, and put in their order. -/
theorem variant_of_canonical_eq (ascii : ∀ attr ∈ level.attributes, attr.isAscii = true)
    (ascii' : ∀ attr ∈ level'.attributes, attr.isAscii = true)
    (same : level.canonical = level'.canonical) : level.Variant level' := by
  rw [canonical_eq_iff, Multiset.coe_eq_coe] at same
  have texts : List.Forall₂ (fun text (attr : Attribute) => text = attr.canonical)
      (level'.attributes.map Attribute.canonical) level'.attributes :=
    List.forall₂_map_left_iff.2 (List.forall₂_same.2 fun attr _ => rfl)
  obtain ⟨partners, pairs, perm⟩ := List.perm_comp_forall₂ same texts
  rw [List.forall₂_map_left_iff] at pairs
  have changes : List.Forall₂ (Relation.ReflTransGen Attribute.Step) level.attributes partners :=
    pairs.imp_of_mem fun attr inside attr' inside' text =>
      Attribute.steps_of_canonical_eq (ascii attr inside) (ascii' attr' (perm.subset inside')) text
  exact (variant_of_attributes changes []).tail (.permute perm)

end RelativeName

/-! ### Names -/

namespace Name

variable {name other : Name}

/-- The canonical text of a name is made of those of its levels. -/
theorem canonical_eq_of_canonicalLevels_eq (same : name.canonicalLevels = other.canonicalLevels) :
    name.canonical = other.canonical := by
  unfold canonicalLevels at same
  rw [canonical, canonical, List.map_reverse, List.map_reverse, same]

theorem canonicalLevels_eq_of_variants
    (variants : List.Forall₂ RelativeName.Variant name.levels other.levels) :
    name.canonicalLevels = other.canonicalLevels := by
  unfold canonicalLevels
  rw [← List.forall₂_eq_eq_eq, List.forall₂_map_left_iff, List.forall₂_map_right_iff]
  exact variants.imp fun _ _ => RelativeName.canonical_eq_of_variant

/-- Whether all text values are ASCII. -/
def isAscii (name : Name) : Bool :=
  name.levels.all fun level => level.attributes.all Attribute.isAscii

theorem variants_of_canonicalLevels_eq (ascii : name.isAscii = true)
    (ascii' : other.isAscii = true)
    (same : name.canonicalLevels = other.canonicalLevels) :
    List.Forall₂ RelativeName.Variant name.levels other.levels := by
  unfold canonicalLevels at same
  rw [← List.forall₂_eq_eq_eq, List.forall₂_map_left_iff, List.forall₂_map_right_iff] at same
  refine same.imp_of_mem fun level inside level' inside' text => ?_
  have attributes := List.all_eq_true.1 ascii level inside
  have attributes' := List.all_eq_true.1 ascii' level' inside'
  exact RelativeName.variant_of_canonical_eq (List.all_eq_true.1 attributes)
    (List.all_eq_true.1 attributes') text

/-- **No comparison of names sees whether their levels were rewritten,** and of names in ASCII
nothing but that goes unseen. -/
theorem canonical_of_variants (name other : Name) :
    (List.Forall₂ RelativeName.Variant name.levels other.levels →
      name.canonical = other.canonical ∧ name.canonicalEq other = true ∧
        ∀ third : Name, third.isWithin name = third.isWithin other ∧
          name.isWithin third = other.isWithin third) ∧
      (name.isAscii = true → other.isAscii = true → name.canonicalEq other = true →
        List.Forall₂ RelativeName.Variant name.levels other.levels) := by
  refine ⟨fun variants => ?_, fun ascii ascii' same => ?_⟩
  · have same := canonicalLevels_eq_of_variants variants
    refine ⟨canonical_eq_of_canonicalLevels_eq same, canonicalEq_iff.2 same, ?_⟩
    intro third
    unfold isWithin
    rw [same]
    exact ⟨rfl, rfl⟩
  · exact variants_of_canonicalLevels_eq ascii ascii' (canonicalEq_iff.1 same)

/-- A country, and below it a common name that begins with a number sign, with an organization. -/
def shop : Name :=
  ⟨[⟨[⟨⟨[2, 5, 4, 6]⟩, .text ⟨.printable, "DE"⟩⟩]⟩,
    ⟨[⟨⟨[2, 5, 4, 3]⟩, .text ⟨.utf8, "#1  Cheese\tSHOP"⟩⟩,
      ⟨⟨[2, 5, 4, 10]⟩, .text ⟨.bmp, " TEST,  One "⟩⟩]⟩]⟩

/-- The same entry, written in another way. -/
def shopRewritten : Name :=
  ⟨[⟨[⟨⟨[2, 5, 4, 6]⟩, .text ⟨.ia5, "de"⟩⟩]⟩,
    ⟨[⟨⟨[2, 5, 4, 10]⟩, .text ⟨.bmp, "Test, one"⟩⟩,
      ⟨⟨[2, 5, 4, 3]⟩, .text ⟨.utf8, "#1 cheese shop"⟩⟩]⟩]⟩

/-- Two levels rewritten at once, and back: string types, capitals, blanks and the order. -/
theorem canonical_of_variants_shop :
    List.Forall₂ RelativeName.Variant shop.levels shopRewritten.levels ∧
      shop ≠ shopRewritten ∧ shop.canonical = shopRewritten.canonical ∧
      shop.canonicalEq shopRewritten = true ∧ shop.isWithin shopRewritten = true ∧
      shop.isAscii = true ∧ shopRewritten.isAscii = true ∧
      List.Forall₂ RelativeName.Variant shopRewritten.levels shop.levels := by
  have country : RelativeName.Variant ⟨[⟨⟨[2, 5, 4, 6]⟩, .text ⟨.printable, "DE"⟩⟩]⟩
      ⟨[⟨⟨[2, 5, 4, 6]⟩, .text ⟨.ia5, "de"⟩⟩]⟩ := by
    refine RelativeName.variant_of_attributes (.cons ?_ .nil) []
    exact .tail (.single (.kind _ _ _ .ia5)) (.case _ _ _ _ (by decide))
  have attributes : RelativeName.Variant
      ⟨[⟨⟨[2, 5, 4, 3]⟩, .text ⟨.utf8, "#1  Cheese\tSHOP"⟩⟩,
        ⟨⟨[2, 5, 4, 10]⟩, .text ⟨.bmp, " TEST,  One "⟩⟩]⟩
      ⟨[⟨⟨[2, 5, 4, 3]⟩, .text ⟨.utf8, "#1 cheese shop"⟩⟩,
        ⟨⟨[2, 5, 4, 10]⟩, .text ⟨.bmp, "Test, one"⟩⟩]⟩ := by
    refine RelativeName.variant_of_attributes (.cons ?_ (.cons ?_ .nil)) []
    · refine .tail (.single (.case _ _ _ "#1  cheese\tshop" ?_)) (.blanks _ _ _ _ ?_)
      · decide +kernel
      · decide +kernel
    · refine .tail (.single (.case _ _ _ " Test,  one " ?_)) (.blanks _ _ _ _ ?_)
      · decide +kernel
      · decide +kernel
  have variants : List.Forall₂ RelativeName.Variant shop.levels shopRewritten.levels :=
    .cons country (.cons (.tail attributes (.permute (.swap _ _ _))) .nil)
  obtain ⟨text, levels, others⟩ := (canonical_of_variants shop shopRewritten).1 variants
  have within : shop.isWithin shopRewritten = true :=
    (others shop).1.symm.trans (isWithin_iff.2 List.prefix_rfl)
  have ascii : shop.isAscii = true := by decide +kernel
  have ascii' : shopRewritten.isAscii = true := by decide +kernel
  have back := (canonical_of_variants shopRewritten shop).2 ascii' ascii
    (canonicalEq_iff.2 (canonicalEq_iff.1 levels).symm)
  exact ⟨variants, by decide, text, levels, within, ascii, ascii', back⟩

end Name

end X509
