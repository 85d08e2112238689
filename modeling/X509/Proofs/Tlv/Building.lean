/-
**Values built from the bottom up read back.**

A value is built when it is a leaf with a primitive tag, or a node with a constructed tag that was
made of built values and so announces the length they were counted to have. Counting goes by
announced lengths alone and never looks at octets. As long as the count of the whole fits a word it
is right at every depth: by induction on how a value was built, its octets spell it, and so do the
octets of every value inside.

* `Tlv.Built`, `Tlv.Occurs` — the values that can be built, and the values inside a value.
* `Tlv.Built.spellsItself` — the octets of a built value spell it.
* `Tlv.Built.of_occurs` — what occurs in a built value is built, and counted to be no longer.
* `Tlv.readAll_writeAll_of_built` — reading undoes writing for built values, and all counts of
  octets are right.
-/

import X509.Proofs.Tlv.Writing

namespace X509.Tlv

variable {tag : Tag} {tlv inner : Tlv} {tlvs : List Tlv}

/-! ### Building -/

/-- **A value that was built from the bottom up.** Every tag is the one that its identifier octet
spells, its number is not all ones, and it has the form of the contents it is used with. -/
inductive Built : Tlv → Prop where
  /-- Data under a primitive tag. -/
  | leaf {tag : Tag} (data : Octets) (legible : tag.Legible)
      (primitive : tag.isConstructed = false) : Built (.leaf tag data)
  /-- Built values under a constructed tag. -/
  | node {tag : Tag} {children : List Tlv} (legible : tag.Legible)
      (constructed : tag.isConstructed = true) (inside : ∀ child ∈ children, Built child) :
      Built (ofChildren tag children)

/-- A value occurs in itself, and in every node that has it inside at some depth. -/
inductive Occurs (inner : Tlv) : Tlv → Prop where
  | here : Occurs inner inner
  | inside {tag : Tag} {length : Nat} {children : List Tlv} {child : Tlv}
      (member : child ∈ children) (deeper : Occurs inner child) :
      Occurs inner (.node tag length children)

/-! ### Counting -/

/-- A value is counted to be longer than its contents. -/
theorem length_lt_encodedLength (tlv : Tlv) : tlv.length < tlv.encodedLength := by
  unfold encodedLength
  omega

theorem encodedLength_le_of_mem (member : tlv ∈ tlvs) :
    tlv.encodedLength ≤ encodedLengthAll tlvs := by
  induction tlvs with
  | nil => cases member
  | cons first rest ih =>
    unfold encodedLengthAll
    rcases List.mem_cons.1 member with rfl | later
    · exact Nat.le_add_right _ _
    · have counted := ih later
      omega

/-- What stands in a node is counted to be shorter than the node. -/
theorem encodedLength_lt_ofChildren (member : tlv ∈ tlvs) :
    tlv.encodedLength < (ofChildren tag tlvs).encodedLength := by
  have counted : tlv.encodedLength ≤ (ofChildren tag tlvs).length := encodedLength_le_of_mem member
  exact Nat.lt_of_le_of_lt counted (length_lt_encodedLength _)

/-! ### Built values -/

/-- **The octets of a built value spell it,** if its count fits a word. The count of a node bounds
the counts of the values inside, so none of them can overflow where the node does not. -/
theorem Built.spellsItself (built : Built tlv) (fits : tlv.encodedLength < Length.bound) :
    SpellsItself tlv := by
  induction built with
  | leaf data legible primitive =>
    refine spellsItself_leaf_iff.2 ⟨legible, primitive, ?_⟩
    exact Nat.lt_trans (length_lt_encodedLength (.leaf _ data)) fits
  | @node tag children legible constructed _ ih =>
    have inside : ∀ child ∈ children, SpellsItself child := by
      intro child member
      apply ih child member
      exact Nat.lt_trans (encodedLength_lt_ofChildren member) fits
    refine (spellsItself_ofChildren_iff inside).2 ⟨legible, constructed, ?_⟩
    exact Nat.lt_trans (length_lt_encodedLength (ofChildren tag children)) fits

/-- **What occurs in a built value is built,** and is counted to be no longer. -/
theorem Built.of_occurs (built : Built tlv) (occurs : Occurs inner tlv) :
    Built inner ∧ inner.encodedLength ≤ tlv.encodedLength := by
  induction built with
  | leaf data legible primitive =>
    cases occurs
    exact ⟨.leaf data legible primitive, Nat.le_refl _⟩
  | @node tag children legible constructed inside ih =>
    rw [ofChildren] at occurs
    cases occurs with
    | here => exact ⟨.node legible constructed inside, Nat.le_refl _⟩
    | @inside _ _ _ child member deeper =>
      obtain ⟨innerBuilt, shorter⟩ := ih child member deeper
      have counted : child.encodedLength < (ofChildren tag children).encodedLength :=
        encodedLength_lt_ofChildren member
      exact ⟨innerBuilt, Nat.le_of_lt (Nat.lt_of_le_of_lt shorter counted)⟩

/-- A value whose octets spell it is counted and announced right. -/
theorem SpellsItself.counted (spelled : SpellsItself tlv) :
    tlv.encodedLength = tlv.write.length ∧ tlv.length = tlv.contents.length := by
  have announced := spelled.announced
  exact ⟨(length_write announced (length_lt_of_spelled_write announced spelled)).symm, announced⟩

/-! ### Reading back -/

/-- **Reading undoes writing for built values,** of any width and depth, whose count fits a word.
Each of them, and each value inside one at any depth, is written in as many octets as were counted,
and has as many contents octets as it announces. -/
theorem readAll_writeAll_of_built (built : ∀ tlv ∈ tlvs, Built tlv)
    (fits : encodedLengthAll tlvs < Length.bound) :
    (∀ tlv ∈ tlvs, ∀ inner, Occurs inner tlv →
        inner.encodedLength = inner.write.length ∧ inner.length = inner.contents.length) ∧
      readAll (writeAll tlvs) = .ok tlvs := by
  have small : ∀ tlv ∈ tlvs, tlv.encodedLength < Length.bound := by
    intro tlv member
    exact Nat.lt_of_le_of_lt (encodedLength_le_of_mem member) fits
  constructor
  · intro tlv member inner occurs
    obtain ⟨innerBuilt, shorter⟩ := (built tlv member).of_occurs occurs
    have spelled := innerBuilt.spellsItself (Nat.lt_of_le_of_lt shorter (small tlv member))
    exact spelled.counted
  · apply readAll_of_spelledAll
    apply spelledAll_writeAll
    intro tlv member
    exact (built tlv member).spellsItself (small tlv member)

/-- A sequence of 300 octets of data and an empty node. -/
def longSequence : Tlv :=
  ofChildren (.plain 0x30)
    [.leaf (.plain 0x04) (List.replicate 300 0x5a), ofChildren (.contextSpecific 3 true) []]

/-- The length of a long sequence is spread over two octets more, and it reads back all the same. -/
theorem readAll_writeAll_of_built_longSequence :
    Built longSequence ∧ encodedLengthAll [longSequence] < Length.bound ∧
      longSequence.length = 306 ∧ longSequence.encodedLength = longSequence.write.length ∧
      readAll (writeAll [longSequence]) = .ok [longSequence] := by
  have built : Built longSequence := by
    refine .node ⟨by decide, by decide⟩ rfl ?_
    intro child member
    rcases List.mem_pair.1 member with rfl | rfl
    · exact .leaf _ ⟨by decide, by decide⟩ rfl
    · exact .node ⟨by decide, by decide⟩ rfl nofun
  have fits : encodedLengthAll [longSequence] < Length.bound := by decide +kernel
  have announced : longSequence.length = 306 := by decide +kernel
  obtain ⟨counted, read⟩ := readAll_writeAll_of_built (List.forall_mem_singleton.2 built) fits
  have whole := counted longSequence List.mem_cons_self longSequence .here
  exact ⟨built, fits, announced, whole.1, read⟩

end X509.Tlv
