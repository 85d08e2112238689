/-
**The grammar of encoded values.**

What octets spell which values, said without a reader. A length is spelled by one octet, or by an
octet that counts the octets of a big-endian number and then that number, leading zeros included. A
value is spelled by an identifier octet, a length, and that many contents octets; when the
identifier is that of a constructed value, the contents spell values in turn.

* `Length.read_eq_ok_iff` — reading a length accepts exactly the spellings of lengths.
* `Length.spelled_write` — the octets that are written for a length spell it.
* `Tlv.SpelledAll.append` — octets in a row spell the values in a row.
-/

import X509.Tlv.Parser

namespace X509

/-! ### Lengths -/

/-- Octets that spell a length. -/
inductive Length.Spelled : Octets → Nat → Prop where
  /-- A length below 128 in one octet. -/
  | short (octet : UInt8) (below : octet < 0x80) : Spelled [octet] octet.toNat
  /-- A count of octets, the high bit set, and a big-endian number in that many octets. -/
  | long (digits : Octets) (filled : digits ≠ []) (few : digits.length ≤ Length.maxOctets) :
      Spelled (UInt8.ofNat (0x80 + digits.length) :: digits) digits.toNat

namespace Length

/-- The octet that announces `count` length octets. -/
theorem toNat_announce {count : Nat} (few : count ≤ maxOctets) :
    (UInt8.ofNat (0x80 + count)).toNat = 0x80 + count := by
  have bound : count ≤ 8 := few
  simp only [UInt8.toNat_ofNat', Nat.reducePow]
  omega

/-- A spelled length is read, with all that follows it left over. -/
theorem read_of_spelled {spelling : Octets} {length : Nat} (spelled : Spelled spelling length)
    (rest : Octets) : read (spelling ++ rest) = .ok (length, rest) := by
  cases spelled with
  | short octet below =>
    have differs : octet ≠ 0x80 := fun same => by
      rw [same] at below
      exact absurd below (by decide)
    simp [read, differs, below]
  | long digits filled few =>
    have positive : 0 < digits.length := List.length_pos_iff.2 filled
    have above : ¬ UInt8.ofNat (0x80 + digits.length) < 0x80 := by
      rw [UInt8.lt_iff_toNat_lt, toNat_announce few]
      simp
    have differs : UInt8.ofNat (0x80 + digits.length) ≠ 0x80 := fun same => by
      have equal : 0x80 + digits.length = 0x80 := by
        rw [← toNat_announce few, same]
        rfl
      omega
    simp only [List.cons_append, read, if_neg differs, if_neg above, toNat_announce few,
      Nat.add_sub_cancel_left, if_neg (Nat.not_lt.2 few), Octets.split?_append]

/-- What is read as a length is the spelling of that length. -/
theorem spelled_of_read {octets rest : Octets} {length : Nat}
    (read : read octets = .ok (length, rest)) :
    ∃ spelling, Spelled spelling length ∧ octets = spelling ++ rest := by
  cases octets with
  | nil => simp [Length.read] at read
  | cons first tail =>
    simp only [Length.read] at read
    split at read
    · cases read
    next differs =>
    split at read
    · next below =>
      obtain ⟨rfl, rfl⟩ := Prod.mk.inj (Except.ok.inj read)
      exact ⟨[first], .short first below, rfl⟩
    next above =>
    split at read
    · cases read
    next few =>
    split at read
    · next digits left cut =>
      obtain ⟨rfl, rfl⟩ := Prod.mk.inj (Except.ok.inj read)
      obtain ⟨count, rfl⟩ := Octets.split?_eq_some_iff.1 cut
      have high : 0x80 ≤ first.toNat := by
        rw [UInt8.lt_iff_toNat_lt] at above
        exact Nat.not_lt.1 above
      have total : 0x80 + digits.length = first.toNat := by omega
      have announced : UInt8.ofNat (0x80 + digits.length) = first := by
        rw [total]
        exact UInt8.ofNat_toNat
      have filled : digits ≠ [] := fun none => differs (by
        rw [← announced, none]
        rfl)
      refine ⟨first :: digits, ?_, rfl⟩
      have spelled := Spelled.long digits filled (by omega)
      rwa [announced] at spelled
    · cases read

/-- **Reading a length accepts exactly the spellings of lengths.** -/
theorem read_eq_ok_iff {octets rest : Octets} {length : Nat} :
    read octets = .ok (length, rest) ↔
      ∃ spelling, Spelled spelling length ∧ octets = spelling ++ rest := by
  constructor
  · exact spelled_of_read
  · rintro ⟨spelling, spelled, rfl⟩
    exact read_of_spelled spelled rest

/-- **The octets that are written for a length spell it.** -/
theorem spelled_write {length : Nat} (fits : (Octets.ofNat length).length ≤ maxOctets) :
    Spelled (write length) length := by
  have read := read_write fits []
  obtain ⟨spelling, spelled, whole⟩ := spelled_of_read read
  simp only [List.append_nil] at whole
  rwa [whole]

end Length

/-! ### Values -/

mutual

/-- Octets that spell a value. -/
inductive Tlv.Spelled : Octets → Tlv → Prop where
  /-- A primitive identifier, a length, and that many octets of data. -/
  | leaf {octet : UInt8} {spelling data : Octets}
      (low : octet &&& Tag.numberMask ≠ Tag.numberMask)
      (primitive : octet &&& Tag.constructedBit = 0)
      (measured : Length.Spelled spelling data.length) :
      Spelled (octet :: (spelling ++ data)) (.leaf (.ofOctet octet) data)
  /-- A constructed identifier, a length, and that many octets that spell the values inside. -/
  | node {octet : UInt8} {spelling contents : Octets} {children : List Tlv}
      (low : octet &&& Tag.numberMask ≠ Tag.numberMask)
      (constructed : octet &&& Tag.constructedBit ≠ 0)
      (measured : Length.Spelled spelling contents.length)
      (inside : SpelledAll contents children) :
      Spelled (octet :: (spelling ++ contents))
        (.node (.ofOctet octet) contents.length children)

/-- Octets that spell values in a row. -/
inductive Tlv.SpelledAll : Octets → List Tlv → Prop where
  | nil : SpelledAll [] []
  | cons {first rest : Octets} {tlv : Tlv} {tlvs : List Tlv} (head : Spelled first tlv)
      (tail : SpelledAll rest tlvs) : SpelledAll (first ++ rest) (tlv :: tlvs)

end

namespace Tlv

/-- A value by itself. -/
theorem SpelledAll.single {octets : Octets} {tlv : Tlv} (spelled : Spelled octets tlv) :
    SpelledAll octets [tlv] := by
  have row := SpelledAll.cons spelled .nil
  rwa [List.append_nil] at row

/-- **Octets in a row spell the values in a row.** -/
theorem SpelledAll.append {front back : Octets} {first second : List Tlv}
    (spelled : SpelledAll front first) (others : SpelledAll back second) :
    SpelledAll (front ++ back) (first ++ second) := by
  induction first generalizing front with
  | nil =>
    cases spelled
    exact others
  | cons tlv tlvs ih =>
    cases spelled with
    | cons head tail =>
      rw [List.append_assoc]
      exact .cons head (ih tail)

/-- What spells a value is not empty. -/
theorem Spelled.ne_nil {octets : Octets} {tlv : Tlv} (spelled : Spelled octets tlv) :
    octets ≠ [] := by
  cases spelled <;> exact List.cons_ne_nil _ _

end Tlv

end X509
