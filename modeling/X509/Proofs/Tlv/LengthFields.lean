/-
**Octets that are written as they were read.**

Each value that octets spell has a length field, at the top level and inside every constructed
value. Writing uses the shortest form for all of them and keeps everything else. So the octets are
written again exactly when each of their length fields is in the shortest form, and fewer octets are
written as soon as one of them is not.

* `Length.isShortest_iff` — the shortest form of a length against the one that is written.
* `Tlv.LengthField` — the length fields of octets, at every depth.
* `Tlv.shortestAll_iff_forall_lengthField` — octets in the shortest form, field by field.
* `Tlv.writeAll_eq_iff_isShortest` — which octets are written again.
-/

import X509.Proofs.Tlv.Shortest

namespace X509

/-! ### Shortest lengths -/

namespace Length

variable {spelling : Octets} {length : Nat}

/-- **A length in the shortest form:** one octet for a length below 128, and otherwise a number in
as few octets as can spell it, after the octet that counts them. -/
inductive IsShortest : Octets → Prop where
  | short (octet : UInt8) (below : octet < 0x80) : IsShortest [octet]
  | long (digits : Octets) (large : 0x80 ≤ digits.toNat)
      (fewest : ∀ other : Octets, other.toNat = digits.toNat → digits.length ≤ other.length) :
      IsShortest (UInt8.ofNat (0x80 + digits.length) :: digits)

/-- Octets spell one length at most. -/
theorem Spelled.unique {other : Nat} (spelled : Spelled spelling length)
    (spelled' : Spelled spelling other) : length = other :=
  (spelled.split_unique spelled' (rfl : spelling ++ [] = spelling ++ [])).2.1

/-- What is written for a length is in the shortest form. -/
theorem isShortest_write (length : Nat) : IsShortest (write length) := by
  unfold write
  split
  · next short =>
    refine .short _ ?_
    rw [UInt8.lt_iff_toNat_lt, UInt8.toNat_ofNat_of_lt' (Nat.lt_trans short (by decide))]
    exact short
  · next long =>
    have value := Octets.toNat_ofNat length
    refine .long _ (by omega) fun other same => ?_
    rw [value] at same
    exact Octets.length_ofNat_le_iff.2 (same ▸ Octets.toNat_lt other)

/-- **A spelled length is in the shortest form when it is what is written for it.** -/
theorem isShortest_iff (spelled : Spelled spelling length) :
    IsShortest spelling ↔ spelling = write length := by
  constructor
  · rintro (⟨octet, below⟩ | ⟨digits, large, fewest⟩)
    · obtain rfl := spelled.unique (.short octet below)
      have short : octet.toNat < 0x80 := UInt8.lt_iff_toNat_lt.1 below
      rw [write, if_pos short, UInt8.ofNat_toNat]
    · have few := length_spelling_le spelled
      rw [List.length_cons] at few
      have filled : digits ≠ [] := by
        rintro rfl
        exact absurd large (by decide)
      obtain rfl := spelled.unique (.long digits filled (by omega))
      have least : (Octets.ofNat digits.toNat).length ≤ digits.length :=
        Octets.length_ofNat_le_iff.2 (Octets.toNat_lt digits)
      have most := fewest _ (Octets.toNat_ofNat digits.toNat)
      have same := Octets.ofNat_toNat_of_length (Nat.le_antisymm least most)
      rw [write, if_neg (Nat.not_lt.2 large), same]
  · rintro rfl
    exact isShortest_write length

/-- A spelled length that is not in the shortest form is longer than that form. -/
theorem length_write_lt_iff (spelled : Spelled spelling length) :
    (write length).length < spelling.length ↔ ¬ IsShortest spelling := by
  rw [isShortest_iff spelled]
  constructor
  · rintro longer rfl
    exact Nat.lt_irrefl _ longer
  · intro differs
    refine Nat.lt_of_le_of_ne (length_write_le spelled) fun same => ?_
    exact differs (write_eq_of_length spelled same).symm

end Length

namespace Tlv

variable {octets front back field : Octets} {length : Nat} {tlv : Tlv} {tlvs before : List Tlv}

/-! ### Length fields -/

/-- **A length field of some octets,** with the length it spells. After octets that spell values in
a row, an identifier octet comes before the field of the next value, and the contents of that value
come after it. If the value is constructed, the length fields of its contents count as well. -/
inductive LengthField (field : Octets) (length : Nat) : Octets → Prop where
  | own {front contents back : Octets} {octet : UInt8} {before : List Tlv}
      (skipped : SpelledAll front before) (measured : Length.Spelled field contents.length)
      (counted : contents.length = length) :
      LengthField field length (front ++ (octet :: (field ++ contents) ++ back))
  | inside {front spelling contents back : Octets} {octet : UInt8} {before : List Tlv}
      (skipped : SpelledAll front before) (constructed : octet &&& Tag.constructedBit ≠ 0)
      (measured : Length.Spelled spelling contents.length)
      (deeper : LengthField field length contents) :
      LengthField field length (front ++ (octet :: (spelling ++ contents) ++ back))

namespace LengthField

theorem measured (here : LengthField field length octets) : Length.Spelled field length := by
  induction here with
  | own _ measured counted => exact counted ▸ measured
  | inside _ _ _ _ ih => exact ih

/-- More octets may follow. -/
theorem append (here : LengthField field length octets) (more : Octets) :
    LengthField field length (octets ++ more) := by
  cases here with
  | own skipped measured counted =>
    rw [List.append_assoc, List.append_assoc]
    exact .own skipped measured counted
  | inside skipped constructed measured deeper =>
    rw [List.append_assoc, List.append_assoc]
    exact .inside skipped constructed measured deeper

/-- One more value may come first. -/
theorem after (here : LengthField field length octets) (first : Spelled front tlv) :
    LengthField field length (front ++ octets) := by
  cases here with
  | own skipped measured counted =>
    rw [← List.append_assoc]
    exact .own (.cons first skipped) measured counted
  | inside skipped constructed measured deeper =>
    rw [← List.append_assoc]
    exact .inside (.cons first skipped) constructed measured deeper

end LengthField

/-! ### Fields in the shortest form -/

mutual

/-- Octets with length fields as they are written spell a value in the shortest form. -/
theorem Spelled.shortest_of_fields {octets : Octets} {tlv : Tlv}
    (fields : ∀ field length, LengthField field length octets → field = Length.write length) :
    Spelled octets tlv → Shortest octets tlv
  | @Spelled.leaf octet spelling data low primitive measured => by
    have own : LengthField spelling data.length ([] ++ (octet :: (spelling ++ data) ++ [])) :=
      .own .nil measured rfl
    rw [List.nil_append, List.append_nil] at own
    obtain rfl := fields _ _ own
    exact .leaf low primitive (Length.lt_bound_of_spelled measured)
  | @Spelled.node octet spelling contents children low constructed measured inside => by
    have own : LengthField spelling contents.length
        ([] ++ (octet :: (spelling ++ contents) ++ [])) := .own .nil measured rfl
    have within : ∀ field length, LengthField field length contents →
        LengthField field length ([] ++ (octet :: (spelling ++ contents) ++ [])) :=
      fun _ _ deeper => .inside .nil constructed measured deeper
    rw [List.nil_append, List.append_nil] at own within
    have row := shortestAll_of_fields
      (fun field length deeper => fields field length (within field length deeper)) inside
    obtain rfl := fields _ _ own
    exact .node low constructed (Length.lt_bound_of_spelled measured) row

theorem shortestAll_of_fields {octets : Octets} {tlvs : List Tlv}
    (fields : ∀ field length, LengthField field length octets → field = Length.write length) :
    SpelledAll octets tlvs → ShortestAll octets tlvs
  | .nil => .nil
  | .cons head tail =>
    .cons (head.shortest_of_fields fun field length here => fields field length (here.append _))
      (shortestAll_of_fields
        (fun field length there => fields field length (there.after head)) tail)

end

/-- Octets that are there start with a value in the shortest form. -/
theorem ShortestAll.exists_of_ne_nil (shortest : ShortestAll octets tlvs) (filled : octets ≠ []) :
    ∃ front tlv back others, Shortest front tlv ∧ ShortestAll back others ∧
      octets = front ++ back := by
  cases shortest with
  | nil => exact absurd rfl filled
  | @cons front back tlv others head tail =>
    exact ⟨front, tlv, back, others, head, tail, rfl⟩

/-- What follows spelled values is in the shortest form if the whole is. -/
theorem ShortestAll.of_append (skipped : SpelledAll front before)
    (shortest : ShortestAll (front ++ back) tlvs) : ∃ others, ShortestAll back others := by
  induction before generalizing front tlvs with
  | nil =>
    cases skipped
    exact ⟨tlvs, shortest⟩
  | cons tlv before ih =>
    cases skipped with
    | @cons piece rest _ _ head tail =>
      rw [List.append_assoc] at shortest
      obtain ⟨piece', tlv', rest', others, head', tail', same⟩ :=
        shortest.exists_of_ne_nil (by simp [head.ne_nil])
      obtain ⟨-, -, rfl⟩ := head.split_unique head'.spelled same
      exact ih tail tail'

/-- **The header at the front of octets in the shortest form is in it,** and so are the contents of
a constructed value. -/
theorem ShortestAll.header {octet : UInt8} {spelling contents : Octets}
    (shortest : ShortestAll (octet :: (spelling ++ contents) ++ back) tlvs)
    (measured : Length.Spelled spelling contents.length) :
    spelling = Length.write contents.length ∧
      (octet &&& Tag.constructedBit ≠ 0 → ∃ children, ShortestAll contents children) := by
  obtain ⟨front, tlv, rest, -, head, -, whole⟩ :=
    shortest.exists_of_ne_nil (List.cons_ne_nil _ _)
  -- Both ways to cut the octets start with a spelled length, so they cut at the same places.
  have cut {written data : Octets} (spelled : Length.Spelled written data.length)
      (same : spelling ++ contents ++ back = written ++ data ++ rest) :
      spelling = written ∧ contents = data := by
    rw [List.append_assoc, List.append_assoc] at same
    obtain ⟨front, count, same⟩ := measured.split_unique spelled same
    exact ⟨front, (List.append_inj same count).1⟩
  cases head with
  | leaf low primitive fits =>
    obtain ⟨rfl, same⟩ := List.cons.inj whole
    obtain ⟨rfl, rfl⟩ := cut (Length.spelled_write_of_lt fits) same
    exact ⟨rfl, fun constructed => absurd primitive constructed⟩
  | node low constructed fits inside =>
    obtain ⟨rfl, same⟩ := List.cons.inj whole
    obtain ⟨rfl, rfl⟩ := cut (Length.spelled_write_of_lt fits) same
    exact ⟨rfl, fun _ => ⟨_, inside⟩⟩

theorem LengthField.eq_write (here : LengthField field length octets)
    (shortest : ShortestAll octets tlvs) : field = Length.write length := by
  induction here generalizing tlvs with
  | own skipped measured counted =>
    obtain ⟨others, rest⟩ := shortest.of_append skipped
    rw [(rest.header measured).1, counted]
  | inside skipped constructed measured _ ih =>
    obtain ⟨others, rest⟩ := shortest.of_append skipped
    obtain ⟨children, deeper⟩ := (rest.header measured).2 constructed
    exact ih deeper

/-- **Spelled octets are in the shortest form when each of their length fields is.** -/
theorem shortestAll_iff_forall_lengthField (spelled : SpelledAll octets tlvs) :
    ShortestAll octets tlvs ↔
      ∀ field length, LengthField field length octets → Length.IsShortest field := by
  constructor
  · intro shortest field length here
    exact (Length.isShortest_iff here.measured).2 (here.eq_write shortest)
  · intro fields
    refine shortestAll_of_fields (fun field length here => ?_) spelled
    exact (Length.isShortest_iff here.measured).1 (fields field length here)

/-! ### Writing what was read -/

/-- **Octets are written as they were read exactly when every length field among them, at every
depth, is in the shortest form,** which is the form that is written. Fewer octets are written
exactly when some length field is longer than that. -/
theorem writeAll_eq_iff_isShortest (read : readAll octets = .ok tlvs) :
    (writeAll tlvs = octets ↔
        ∀ field length, LengthField field length octets → Length.IsShortest field) ∧
      (∀ field length, LengthField field length octets →
        (Length.IsShortest field ↔ field = Length.write length)) ∧
        ((writeAll tlvs).length < octets.length ↔ ∃ field length,
          LengthField field length octets ∧ (Length.write length).length < field.length) := by
  have spelled := readAll_eq_ok_iff.1 read
  have same : writeAll tlvs = octets ↔
      ∀ field length, LengthField field length octets → Length.IsShortest field :=
    spelled.writeAll_eq_iff.trans (shortestAll_iff_forall_lengthField spelled)
  refine ⟨same, fun field length here => Length.isShortest_iff here.measured, ?_⟩
  have shorter : (writeAll tlvs).length < octets.length ↔ writeAll tlvs ≠ octets := by
    constructor
    · rintro less rfl
      exact Nat.lt_irrefl _ less
    · intro differs
      refine Nat.lt_of_not_le fun few => differs ?_
      exact spelled.writeAll_eq_iff.2 (shortestAll few spelled)
  rw [shorter, Ne, same]
  push Not
  refine exists_congr fun field => exists_congr fun length => and_congr_right fun here => ?_
  exact (Length.length_write_lt_iff here.measured).symm

/-- An octet string whose length is spelled in two octets, in a sequence of four octets. Three are
left of these. -/
theorem writeAll_eq_iff_isShortest_padded :
    readAll [0x30, 0x04, 0x04, 0x81, 0x01, 0x05] =
        .ok [.node (.plain 0x30) 4 [.leaf (.plain 0x04) [0x05]]] ∧
      LengthField [0x81, 0x01] 1 [0x30, 0x04, 0x04, 0x81, 0x01, 0x05] ∧
      (writeAll [.node (.plain 0x30) 4 [.leaf (.plain 0x04) [0x05]]]).length < 6 := by
  have read : readAll [0x30, 0x04, 0x04, 0x81, 0x01, 0x05] =
      .ok [.node (.plain 0x30) 4 [.leaf (.plain 0x04) [0x05]]] := by decide +kernel
  have inner : LengthField [0x81, 0x01] 1 ([] ++ (0x04 :: ([0x81, 0x01] ++ [0x05]) ++ [])) :=
    .own .nil (.long [0x01] (by decide) (by decide)) rfl
  have here : LengthField [0x81, 0x01] 1
      ([] ++ (0x30 :: ([0x04] ++ [0x04, 0x81, 0x01, 0x05]) ++ [])) :=
    .inside .nil (by decide) (.short 0x04 (by decide)) inner
  obtain ⟨-, -, shorter⟩ := writeAll_eq_iff_isShortest read
  exact ⟨read, here, shorter.2 ⟨_, _, here, by decide +kernel⟩⟩

end Tlv

end X509
