/-
**Reading accepts the grammar and nothing else.**

A value that is spelled at the front of some octets is the frame read there, with everything after
it left over, so a spelling is never the beginning of another one. From this the reader and the
grammar are followed side by side, by induction on the number of octets: the contents of a
constructed value and the octets after it are both shorter than the whole.

* `Frame.read_eq_ok_iff` — what a frame is made of.
* `Tlv.readAll_eq_ok_iff` — reading succeeds exactly with what the octets spell.
* `Tlv.SpelledAll.append_iff` — what follows spelled values is spelled by itself.
* `Tlv.IsSplit.unique` — octets are taken apart into spelled values in one way only.
* `Tlv.readAll_eq_unique_derivation` — acceptance, uniqueness and concatenation together.
-/

import X509.Proofs.Outcome
import X509.Tlv.Grammar

namespace X509

/-! ### Frames -/

namespace Frame

theorem readTag_eq_ok_iff {octets rest : Octets} {tag : Tag} :
    readTag octets = .ok (tag, rest) ↔
      ∃ octet, octet &&& Tag.numberMask ≠ Tag.numberMask ∧ tag = .ofOctet octet ∧
        octets = octet :: rest := by
  cases octets with
  | nil => simp [readTag]
  | cons octet tail =>
    rw [readTag]
    split
    · next high =>
      constructor
      · intro read
        cases read
      · rintro ⟨_, low, -, same⟩
        obtain ⟨rfl, -⟩ := List.cons.inj same
        exact absurd high low
    · next low =>
      constructor
      · intro read
        obtain ⟨rfl, rfl⟩ := Prod.mk.inj (Except.ok.inj read)
        exact ⟨octet, low, rfl, rfl⟩
      · rintro ⟨_, -, rfl, same⟩
        obtain ⟨rfl, rfl⟩ := List.cons.inj same
        rfl

/-- **A frame is an identifier octet, a spelled length and that many contents octets.** -/
theorem read_eq_ok_iff {octets : Octets} {frame : Frame} :
    read octets = .ok frame ↔
      ∃ octet spelling, octet &&& Tag.numberMask ≠ Tag.numberMask ∧ frame.tag = .ofOctet octet ∧
        Length.Spelled spelling frame.contents.length ∧
        octets = octet :: (spelling ++ frame.contents) ++ frame.rest := by
  constructor
  · intro read
    obtain ⟨afterTag, afterLength, length, tagged, measured, rfl, shape⟩ := parts_of_read read
    obtain ⟨octet, low, same, rfl⟩ := readTag_eq_ok_iff.1 tagged
    obtain ⟨spelling, spelled, rfl⟩ := Length.read_eq_ok_iff.1 measured
    refine ⟨octet, spelling, low, same, spelled, ?_⟩
    rw [shape, List.cons_append, List.append_assoc]
  · rintro ⟨octet, spelling, low, same, spelled, rfl⟩
    obtain ⟨tag, contents, rest⟩ := frame
    have tagged : readTag (octet :: (spelling ++ contents) ++ rest)
        = .ok (tag, spelling ++ (contents ++ rest)) :=
      readTag_eq_ok_iff.2 ⟨octet, low, same, by rw [List.cons_append, List.append_assoc]⟩
    have measured := Length.read_of_spelled spelled (contents ++ rest)
    simp only [read, tagged, measured, bind, Except.bind, Octets.split?_append]
    rfl

end Frame

/-! ### Values -/

namespace Tlv

/-- Reading octets is reading the first frame, its value, and what is left over. -/
theorem readAll_eq_ok_iff_frame {octets : Octets} {tlvs : List Tlv} (filled : octets ≠ []) :
    readAll octets = .ok tlvs ↔
      ∃ frame first others, Frame.read octets = .ok frame ∧ ofFrame frame = .ok first ∧
        readAll frame.rest = .ok others ∧ first :: others = tlvs := by
  rw [readAll_eq filled, Except.bind_eq_ok_iff]
  constructor
  · rintro ⟨frame, framed, rest⟩
    obtain ⟨first, value, rest⟩ := Except.bind_eq_ok_iff.1 rest
    obtain ⟨others, values, whole⟩ := Except.bind_eq_ok_iff.1 rest
    exact ⟨frame, first, others, framed, value, values, Except.ok.inj whole⟩
  · rintro ⟨frame, first, others, framed, value, values, rfl⟩
    exact ⟨frame, framed, Except.bind_eq_ok_iff.2
      ⟨first, value, Except.bind_eq_ok_iff.2 ⟨others, values, rfl⟩⟩⟩

theorem constructedBit_eq_or (octet : UInt8) :
    octet &&& Tag.constructedBit = 0 ∨ octet &&& Tag.constructedBit = Tag.constructedBit := by
  have table : ∀ value : Fin 256,
      UInt8.ofNat value.val &&& Tag.constructedBit = 0 ∨
        UInt8.ofNat value.val &&& Tag.constructedBit = Tag.constructedBit := by decide +kernel
  simpa using table ⟨octet.toNat, octet.toNat_lt⟩

theorem isConstructed_ofOctet_eq_true_iff {octet : UInt8} :
    (Tag.ofOctet octet).isConstructed = true ↔ octet &&& Tag.constructedBit ≠ 0 := by
  rw [Tag.isConstructed_ofOctet, beq_iff_eq]
  rcases constructedBit_eq_or octet with clear | set
  · rw [clear]
    decide
  · rw [set]
    decide

/-- **A spelled value is the frame at the front of the octets it starts.** -/
theorem Spelled.frame {octets : Octets} {tlv : Tlv} (spelled : Spelled octets tlv)
    (rest : Octets) :
    ∃ frame, Frame.read (octets ++ rest) = .ok frame ∧ frame.rest = rest ∧
      ((frame.tag.isConstructed = false ∧ tlv = .leaf frame.tag frame.contents) ∨
        (frame.tag.isConstructed = true ∧ ∃ children, SpelledAll frame.contents children ∧
          tlv = .node frame.tag frame.contents.length children)) := by
  cases spelled with
  | @leaf octet spelling data low primitive measured =>
    refine ⟨⟨.ofOctet octet, data, rest⟩,
      Frame.read_eq_ok_iff.2 ⟨octet, spelling, low, rfl, measured, rfl⟩, rfl, .inl ⟨?_, rfl⟩⟩
    rw [← Bool.not_eq_true, isConstructed_ofOctet_eq_true_iff]
    exact fun set => set primitive
  | @node octet spelling contents children low constructed measured inside =>
    exact ⟨⟨.ofOctet octet, contents, rest⟩,
      Frame.read_eq_ok_iff.2 ⟨octet, spelling, low, rfl, measured, rfl⟩, rfl,
      .inr ⟨isConstructed_ofOctet_eq_true_iff.2 constructed, children, inside, rfl⟩⟩

theorem readAll_of_spelledAll {octets : Octets} {tlvs : List Tlv}
    (spelled : SpelledAll octets tlvs) : readAll octets = .ok tlvs := by
  induction count : octets.length using Nat.strongRecOn generalizing octets tlvs with
  | ind count ih =>
    subst count
    cases spelled with
    | nil => exact readAll_nil
    | @cons front back tlv tlvs head tail =>
      obtain ⟨frame, framed, rfl, value⟩ := head.frame back
      obtain ⟨inner, after⟩ := Frame.lengths_lt_of_read framed
      have filled : front ++ frame.rest ≠ [] := by
        simp [head.ne_nil]
      refine (readAll_eq_ok_iff_frame filled).2
        ⟨frame, tlv, tlvs, framed, ?_, ih _ after tail rfl, rfl⟩
      rcases value with ⟨primitive, rfl⟩ | ⟨constructed, children, inside, rfl⟩
      · rw [ofFrame, if_neg (by simp [primitive])]
      · rw [ofFrame, if_pos constructed, ih _ inner inside rfl]
        rfl

theorem spelledAll_of_readAll {octets : Octets} {tlvs : List Tlv}
    (read : readAll octets = .ok tlvs) : SpelledAll octets tlvs := by
  induction count : octets.length using Nat.strongRecOn generalizing octets tlvs with
  | ind count ih =>
    subst count
    by_cases filled : octets = []
    · subst filled
      rw [readAll_nil] at read
      cases read
      exact .nil
    · obtain ⟨frame, first, others, framed, value, values, rfl⟩ :=
        (readAll_eq_ok_iff_frame filled).1 read
      obtain ⟨inner, after⟩ := Frame.lengths_lt_of_read framed
      obtain ⟨octet, spelling, low, same, spelled, shape⟩ := Frame.read_eq_ok_iff.1 framed
      rw [shape]
      refine .cons ?_ (ih _ after values rfl)
      unfold ofFrame at value
      split at value
      · next constructed =>
        obtain ⟨children, inside, rfl⟩ := Except.map_eq_ok_iff.1 value
        rw [same] at constructed ⊢
        exact .node low (isConstructed_ofOctet_eq_true_iff.1 constructed) spelled
          (ih _ inner inside rfl)
      · next primitive =>
        cases value
        rw [same] at primitive ⊢
        refine .leaf low ?_ spelled
        rw [isConstructed_ofOctet_eq_true_iff, not_not] at primitive
        exact primitive

/-- **Reading succeeds exactly with the values that the octets spell.** -/
theorem readAll_eq_ok_iff {octets : Octets} {tlvs : List Tlv} :
    readAll octets = .ok tlvs ↔ SpelledAll octets tlvs :=
  ⟨spelledAll_of_readAll, readAll_of_spelledAll⟩

/-- Octets spell at most one list of values. -/
theorem SpelledAll.unique {octets : Octets} {tlvs tlvs' : List Tlv}
    (spelled : SpelledAll octets tlvs) (spelled' : SpelledAll octets tlvs') : tlvs = tlvs' :=
  Except.ok.inj ((readAll_of_spelledAll spelled).symm.trans (readAll_of_spelledAll spelled'))

/-! ### One way to take octets apart -/

/-- **A spelling is never the beginning of another one.** -/
theorem Spelled.split_unique {front front' back back' : Octets} {tlv tlv' : Tlv}
    (spelled : Spelled front tlv) (spelled' : Spelled front' tlv')
    (same : front ++ back = front' ++ back') : front = front' ∧ tlv = tlv' ∧ back = back' := by
  obtain ⟨frame, framed, rfl, -⟩ := spelled.frame back
  obtain ⟨frame', framed', rfl, -⟩ := spelled'.frame back'
  rw [same, framed'] at framed
  obtain rfl := Except.ok.inj framed
  obtain rfl := List.append_cancel_right same
  have values := (SpelledAll.single spelled).unique (.single spelled')
  exact ⟨rfl, (List.cons.inj values).1, rfl⟩

/-- Octets that are there start with a spelled value. -/
theorem SpelledAll.exists_of_ne_nil {octets : Octets} {tlvs : List Tlv}
    (spelled : SpelledAll octets tlvs) (filled : octets ≠ []) :
    ∃ front tlv back others, Spelled front tlv ∧ SpelledAll back others ∧
      octets = front ++ back ∧ tlvs = tlv :: others := by
  cases spelled with
  | nil => exact absurd rfl filled
  | @cons front back tlv others head tail =>
    exact ⟨front, tlv, back, others, head, tail, rfl, rfl⟩

/-- **What follows spelled values is spelled by itself.** -/
theorem SpelledAll.append_iff {front back : Octets} {first all : List Tlv}
    (spelled : SpelledAll front first) :
    SpelledAll (front ++ back) all ↔ ∃ second, SpelledAll back second ∧ all = first ++ second := by
  constructor
  · intro whole
    induction first generalizing front all with
    | nil =>
      cases spelled
      exact ⟨all, whole, rfl⟩
    | cons tlv tlvs ih =>
      cases spelled with
      | @cons piece rest _ _ head tail =>
        rw [List.append_assoc] at whole
        obtain ⟨piece', tlv', rest', others, head', tail', same, rfl⟩ :=
          whole.exists_of_ne_nil (by simp [head.ne_nil])
        obtain ⟨-, rfl, rfl⟩ := head.split_unique head' same
        obtain ⟨second, found, rfl⟩ := ih tail tail'
        exact ⟨second, found, rfl⟩
  · rintro ⟨second, found, rfl⟩
    exact spelled.append found

/-- A way to take octets apart into pieces, each with the value it spells. -/
structure IsSplit (octets : Octets) (parts : List (Octets × Tlv)) : Prop where
  whole : parts.flatMap Prod.fst = octets
  spelled : ∀ part ∈ parts, Spelled part.1 part.2

theorem isSplit_cons_iff {octets : Octets} {part : Octets × Tlv} {parts : List (Octets × Tlv)} :
    IsSplit octets (part :: parts) ↔
      Spelled part.1 part.2 ∧ ∃ rest, octets = part.1 ++ rest ∧ IsSplit rest parts := by
  constructor
  · rintro ⟨whole, spelled⟩
    refine ⟨spelled part List.mem_cons_self, parts.flatMap Prod.fst, ?_, rfl, fun other member =>
      spelled other (List.mem_cons_of_mem part member)⟩
    rw [← whole, List.flatMap_cons]
  · rintro ⟨head, rest, rfl, whole, spelled⟩
    refine ⟨by rw [List.flatMap_cons, whole], fun other member => ?_⟩
    rcases List.mem_cons.1 member with rfl | member
    · exact head
    · exact spelled other member

/-- Octets spell a row of values by the pieces they are taken apart into. -/
theorem spelledAll_iff_isSplit {octets : Octets} {tlvs : List Tlv} :
    SpelledAll octets tlvs ↔ ∃ parts, IsSplit octets parts ∧ parts.map Prod.snd = tlvs := by
  induction tlvs generalizing octets with
  | nil =>
    constructor
    · intro spelled
      cases spelled
      exact ⟨[], ⟨rfl, nofun⟩, rfl⟩
    · rintro ⟨parts, split, none⟩
      obtain rfl := List.map_eq_nil_iff.1 none
      rw [← split.whole]
      exact .nil
  | cons tlv tlvs ih =>
    constructor
    · intro spelled
      cases spelled with
      | @cons front back _ _ head tail =>
        obtain ⟨parts, split, rfl⟩ := ih.1 tail
        exact ⟨(front, tlv) :: parts, isSplit_cons_iff.2 ⟨head, back, rfl, split⟩, rfl⟩
    · rintro ⟨parts, split, values⟩
      obtain ⟨part, parts, rfl, rfl, rfl⟩ := List.map_eq_cons_iff.1 values
      obtain ⟨head, rest, rfl, tail⟩ := isSplit_cons_iff.1 split
      exact .cons head (ih.2 ⟨parts, tail, rfl⟩)

/-- **Octets are taken apart into spelled values in one way only.** -/
theorem IsSplit.unique {octets : Octets} {parts parts' : List (Octets × Tlv)}
    (split : IsSplit octets parts) (split' : IsSplit octets parts') : parts = parts' := by
  induction parts generalizing octets parts' with
  | nil =>
    obtain rfl := split.whole
    cases parts' with
    | nil => rfl
    | cons part' parts' =>
      obtain ⟨head, rest, same, -⟩ := isSplit_cons_iff.1 split'
      exact absurd (List.append_eq_nil_iff.1 same.symm).1 head.ne_nil
  | cons part parts ih =>
    obtain ⟨head, rest, rfl, tail⟩ := isSplit_cons_iff.1 split
    cases parts' with
    | nil => exact absurd (List.append_eq_nil_iff.1 split'.whole.symm).1 head.ne_nil
    | cons part' parts' =>
      obtain ⟨head', rest', same, tail'⟩ := isSplit_cons_iff.1 split'
      obtain ⟨front, value, rfl⟩ := head.split_unique head' same
      rw [ih tail tail', Prod.ext front value]

/-! ### The reader against the grammar -/

/-- **Reading accepts exactly the octets that are spelled values in a row, and builds their one
derivation.** Values that are read can be cut off, and what follows them is read by itself. -/
theorem readAll_eq_unique_derivation (octets : Octets) :
    ((∃ tlvs, readAll octets = .ok tlvs) ↔ ∃ parts, IsSplit octets parts) ∧
      (∀ tlvs, readAll octets = .ok tlvs ↔
        ∃ parts, IsSplit octets parts ∧ parts.map Prod.snd = tlvs) ∧
      (∀ parts parts', IsSplit octets parts → IsSplit octets parts' → parts = parts') ∧
      (∀ first more all, readAll octets = .ok first →
        (readAll (octets ++ more) = .ok all ↔
          ∃ second, readAll more = .ok second ∧ all = first ++ second)) := by
  have derived : ∀ tlvs, readAll octets = .ok tlvs ↔
      ∃ parts, IsSplit octets parts ∧ parts.map Prod.snd = tlvs :=
    fun tlvs => readAll_eq_ok_iff.trans spelledAll_iff_isSplit
  refine ⟨⟨?_, ?_⟩, derived, fun parts parts' => IsSplit.unique, fun first more all read => ?_⟩
  · rintro ⟨tlvs, read⟩
    obtain ⟨parts, split, -⟩ := (derived tlvs).1 read
    exact ⟨parts, split⟩
  · rintro ⟨parts, split⟩
    exact ⟨parts.map Prod.snd, (derived _).2 ⟨parts, split, rfl⟩⟩
  · simp only [readAll_eq_ok_iff] at read ⊢
    exact read.append_iff

/-- A sequence whose length is spelled with a leading zero, and a null value after it. -/
theorem readAll_padded_length_append :
    readAll [0x30, 0x82, 0x00, 0x03, 0x02, 0x01, 0x05] =
        .ok [.node (.plain 0x30) 3 [.leaf (.plain 0x02) [0x05]]] ∧
      readAll ([0x30, 0x82, 0x00, 0x03, 0x02, 0x01, 0x05] ++ [0x05, 0x00]) =
        .ok [.node (.plain 0x30) 3 [.leaf (.plain 0x02) [0x05]], .leaf (.plain 0x05) []] := by
  have read : readAll [0x30, 0x82, 0x00, 0x03, 0x02, 0x01, 0x05] =
      .ok [.node (.plain 0x30) 3 [.leaf (.plain 0x02) [0x05]]] := by decide +kernel
  have more : readAll [0x05, 0x00] = .ok [.leaf (.plain 0x05) []] := by decide +kernel
  obtain ⟨-, -, -, row⟩ := readAll_eq_unique_derivation [0x30, 0x82, 0x00, 0x03, 0x02, 0x01, 0x05]
  exact ⟨read, (row _ _ _ read).2 ⟨_, more, rfl⟩⟩

end Tlv

end X509
