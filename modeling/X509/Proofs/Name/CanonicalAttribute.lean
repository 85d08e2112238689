/-
**An attribute is told by its canonical text.**

The canonical text of an attribute is a key, an equals sign and a value. A key is letters, or digits
and dots, so it ends at the first equals sign and tells the type: keywords differ from one another
and from every dotted text. A value that is a text has its special characters escaped and does not
begin with a number sign, which is what a value in octets begins with.

* `guarded_canonicalText`, `head?_canonicalText_ne` — what escaping leaves.
* `Attribute.type_eq_of_canonicalKey_eq` — the key tells the type.
* `Attribute.alike_of_canonical_eq` — the canonical text tells the type, the form of the value, and
  the octets of a value in octets.
* `Attribute.guarded_canonical` — no special character stands in it without its escape.
-/

import X509.Name.Canonical
import X509.Octets.HexText
import X509.Proofs.Name.CanonicalText
import X509.Proofs.Text.Lowercase
import X509.Proofs.Value.DottedText

namespace X509

open Text (Guarded isReserved)

/-! ### Escaped texts -/

theorem reserved_of_special {c : Char} (special : isSpecial c = true) : isReserved c = true := by
  have table : [',', '+', '\x22', '\\', '<', '>', ';'].all isReserved = true := by decide
  exact List.all_eq_true.1 table c (List.contains_iff_mem.1 special)

theorem guarded_escapeWhere {escaped : Char → Bool}
    (special : ∀ c, isSpecial c = true → escaped c = true) (c : Char) :
    Guarded isSpecial (escapeWhere escaped c) := by
  unfold escapeWhere
  by_cases here : escaped c = true
  · rw [if_pos here]
    exact .escaped c .nil
  · rw [if_neg here]
    refine .plain (Bool.eq_false_iff.2 (mt (special c) here)) ?_ .nil
    rintro rfl
    exact here (special '\\' (by decide))

theorem guarded_flatMap_escapeWhere (text : List Char) :
    Guarded isSpecial (text.flatMap (escapeWhere isSpecial)) := by
  induction text with
  | nil => exact .nil
  | cons c rest ih =>
    rw [List.flatMap_cons]
    exact (guarded_escapeWhere (fun _ => id) c).append ih

theorem guarded_escapeText (text : List Char) : Guarded isSpecial (escapeText text) := by
  cases text with
  | nil => exact .nil
  | cons c rest =>
    have first (c : Char) (special : isSpecial c = true) : isSpecialFirst c = true := by
      rw [isSpecialFirst, special, Bool.or_true]
    rw [escapeText_cons]
    exact (guarded_escapeWhere first c).append (guarded_flatMap_escapeWhere rest)

/-- An escaped text does not begin with a number sign. -/
theorem head?_escapeText_ne (text : List Char) : (escapeText text).head? ≠ some '#' := by
  cases text with
  | nil => simp [escapeText]
  | cons c rest =>
    rw [escapeText_cons, escapeWhere]
    split
    · simp
    · next plain =>
      have other : c ≠ '#' := by
        rintro rfl
        exact plain (by decide)
      simpa using other

theorem guarded_canonicalText (text : List Char) : Guarded isSpecial (canonicalText text) :=
  (guarded_escapeText _).lowercaseAfter (fun _ => reserved_of_special) []

/-- A text in canonical form does not begin with a number sign. -/
theorem head?_canonicalText_ne (text : List Char) : (canonicalText text).head? ≠ some '#' :=
  Text.head?_lowercaseAfter_ne (by decide) (head?_escapeText_ne _) []

/-! ### Octets -/

/-- Different octets have different hexadecimal digits. -/
theorem Octets.eq_of_hexPairs_eq {one two : Octets}
    (same : one.flatMap Octets.hexPair = two.flatMap Octets.hexPair) : one = two := by
  have read := Octets.readHex?_toHex one
  rw [Octets.toHex, same, ← Octets.toHex, Octets.readHex?_toHex two] at read
  exact (Option.some.inj read).symm

/-- Hexadecimal digits have no meaning in canonical names. -/
theorem Octets.not_reserved_of_mem_hexPairs {octets : Octets} {c : Char}
    (member : c ∈ octets.flatMap Octets.hexPair) : isReserved c = false := by
  have table : ∀ value : Fin 16, isReserved (Nat.digitChar value.val) = false := by decide +kernel
  obtain ⟨octet, -, digit⟩ := List.mem_flatMap.1 member
  have below : octet.toNat < 256 := octet.toNat_lt
  simp only [Octets.hexPair, List.mem_cons, List.not_mem_nil, or_false] at digit
  rcases digit with rfl | rfl
  · exact table ⟨octet.toNat / 16, by omega⟩
  · exact table ⟨octet.toNat % 16, by omega⟩

/-- **Values of the same form:** two texts, or the same octets. -/
inductive AttributeValue.SameForm : AttributeValue → AttributeValue → Prop where
  | text (string string' : DirectoryString) : SameForm (.text string) (.text string')
  | encoded (octets : Octets) : SameForm (.encoded octets) (.encoded octets)

/-! ### Keys -/

theorem ObjectIdentifier.mem_of_lookup? {table : List (List UInt64 × String)}
    {oid : ObjectIdentifier} {name : String} (found : oid.lookup? table = some name) :
    (oid.arcs, name) ∈ table := by
  obtain ⟨⟨arcs, _⟩, entry, rfl⟩ := Option.map_eq_some_iff.1 found
  have same : arcs = oid.arcs := by simpa using List.find?_some entry
  rw [← same]
  exact List.mem_of_find?_eq_some entry

namespace Attribute

variable {one two : Attribute}

/-- A keyword in lower case: one letter at least, and letters only. -/
theorem letters_of_mem_keywords {entry : List UInt64 × String} (member : entry ∈ keywords) :
    entry.2.toList ≠ [] ∧ ∀ c ∈ entry.2.toList.map Char.toLower, c.isLower = true := by
  have table : (keywords.all fun entry => entry.2.toList ≠ [] ∧
      (entry.2.toList.map Char.toLower).all Char.isLower) = true := by decide +kernel
  obtain ⟨filled, letters⟩ := of_decide_eq_true (List.all_eq_true.1 table entry member)
  exact ⟨filled, List.all_eq_true.1 letters⟩

/-- Different types have different keywords. -/
theorem arcs_eq_of_keyword_eq {entry entry' : List UInt64 × String} (member : entry ∈ keywords)
    (member' : entry' ∈ keywords)
    (same : entry.2.toList.map Char.toLower = entry'.2.toList.map Char.toLower) :
    entry.1 = entry'.1 := by
  have table : ∀ entry ∈ keywords, ∀ entry' ∈ keywords,
      entry.2.toList.map Char.toLower = entry'.2.toList.map Char.toLower →
        entry.1 = entry'.1 := by decide +kernel
  exact table entry member entry' member' same

/-- A key is either the letters of a keyword or a dotted text. -/
theorem canonicalKey_cases (attr : Attribute) :
    (∃ keyword, (attr.type.arcs, keyword) ∈ keywords ∧ attr.keyword? = some keyword ∧
        attr.canonicalKey = keyword.toList.map Char.toLower) ∨
      (attr.keyword? = none ∧ attr.canonicalKey = attr.type.toText.toList) := by
  unfold canonicalKey
  cases found : attr.keyword? with
  | some keyword => exact .inl ⟨keyword, ObjectIdentifier.mem_of_lookup? found, rfl, rfl⟩
  | none => exact .inr ⟨rfl, rfl⟩

/-- Keys hold no character that has a meaning in canonical names. -/
theorem not_reserved_of_mem_canonicalKey {c : Char} (member : c ∈ one.canonicalKey) :
    isReserved c = false := by
  cases reserved : isReserved c with
  | false => rfl
  | true =>
    have apart : c.isLower = false ∧ c.isDigit = false ∧ c ≠ '.' := of_decide_eq_true
      (Text.of_reserved (p := fun d => decide (d.isLower = false ∧ d.isDigit = false ∧ d ≠ '.'))
        (by decide) reserved)
    obtain ⟨noLetter, noDigit, noDot⟩ := apart
    rcases one.canonicalKey_cases with ⟨keyword, entry, -, key⟩ | ⟨-, key⟩ <;> rw [key] at member
    · have letter := (letters_of_mem_keywords entry).2 c member
      simp [noLetter] at letter
    · rcases ObjectIdentifier.isDigit_or_dot_of_mem_toText member with digit | dot
      · simp [noDigit] at digit
      · exact absurd dot noDot

/-- A keyword is no dotted text. -/
theorem keyword_ne_toText {arcs : List UInt64} {keyword : String} {oid : ObjectIdentifier}
    (entry : (arcs, keyword) ∈ keywords) : keyword.toList.map Char.toLower ≠ oid.toText.toList := by
  intro same
  obtain ⟨filled, letters⟩ := letters_of_mem_keywords entry
  obtain ⟨c, rest, shape⟩ := List.exists_cons_of_ne_nil filled
  have letter : c.toLower.isLower = true := letters _ (by simp [shape])
  have inside : c.toLower ∈ oid.toText.toList := by simp [← same, shape]
  rcases ObjectIdentifier.isDigit_or_dot_of_mem_toText inside with digit | dot
  · have above : 0x61 ≤ c.toLower.toNat := of_decide_eq_true (Bool.and_eq_true_iff.1 letter).1
    have below : c.toLower.toNat ≤ 0x39 := of_decide_eq_true (Bool.and_eq_true_iff.1 digit).2
    omega
  · rw [dot] at letter
    exact absurd letter (by decide)

/-- **The key tells the type.** -/
theorem type_eq_of_canonicalKey_eq (same : one.canonicalKey = two.canonicalKey) :
    one.type = two.type := by
  rcases one.canonicalKey_cases with ⟨keyword, entry, -, key⟩ | ⟨-, key⟩ <;>
    rcases two.canonicalKey_cases with ⟨keyword', entry', -, key'⟩ | ⟨-, key'⟩ <;>
    rw [key, key'] at same
  · have arcs : one.type.arcs = two.type.arcs := arcs_eq_of_keyword_eq entry entry' same
    rw [← ObjectIdentifier.mk.injEq] at arcs
    exact arcs
  · exact absurd same (keyword_ne_toText entry)
  · exact absurd same.symm (keyword_ne_toText entry')
  · exact ObjectIdentifier.toText_injective (String.toList_injective same)

/-! ### Attributes -/

/-- The key ends at the first equals sign. -/
theorem parts_eq_of_canonical_eq (same : one.canonical = two.canonical) :
    one.canonicalKey = two.canonicalKey ∧ one.canonicalValue = two.canonicalValue := by
  have guarded (attr : Attribute) : Guarded (· == '=') attr.canonicalKey := by
    refine .of_unreserved ?_ fun c => not_reserved_of_mem_canonicalKey
    intro c equals
    rw [eq_of_beq equals]
    decide
  have ends (rest : List Char) : Text.Ends (· == '=') ('=' :: rest) :=
    Text.ends_cons (by rfl) (by decide) rest
  obtain ⟨keys, values⟩ := (guarded one).append_inj (guarded two) (ends _) (ends _) same
  exact ⟨keys, List.cons_inj_right '=' |>.1 values⟩

/-- **The canonical text tells the type and the form of the value.** -/
theorem alike_of_canonical_eq (same : one.canonical = two.canonical) :
    one.type = two.type ∧ one.value.SameForm two.value := by
  obtain ⟨keys, values⟩ := parts_eq_of_canonical_eq same
  refine ⟨type_eq_of_canonicalKey_eq keys, ?_⟩
  unfold canonicalValue at values
  cases form : one.value with
  | text string =>
    cases form' : two.value with
    | text string' => exact .text string string'
    | encoded octets =>
      rw [form, form'] at values
      have head := head?_canonicalText_ne string.text.toList
      simp [values] at head
  | encoded octets =>
    cases form' : two.value with
    | text string =>
      rw [form, form'] at values
      have head := head?_canonicalText_ne string.text.toList
      simp [← values] at head
    | encoded octets' =>
      rw [form, form'] at values
      obtain rfl := Octets.eq_of_hexPairs_eq (List.cons.inj values).2
      exact .encoded octets

theorem hasKeyword_eq_of_canonical_eq (same : one.canonical = two.canonical) :
    one.hasKeyword = two.hasKeyword := by
  unfold hasKeyword keyword?
  rw [(alike_of_canonical_eq same).1]

/-- **No special character stands in a canonical text without its escape.** -/
theorem guarded_canonical (attr : Attribute) : Guarded isSpecial attr.canonical := by
  have unreserved {text : List Char} (free : ∀ c ∈ text, isReserved c = false) :
      Guarded isSpecial text := .of_unreserved (fun _ => reserved_of_special) free
  have value : Guarded isSpecial attr.canonicalValue := by
    unfold canonicalValue
    split
    · exact guarded_canonicalText _
    · refine .plain (by decide) (by decide) (unreserved ?_)
      intro c member
      exact Octets.not_reserved_of_mem_hexPairs member
  have key : Guarded isSpecial attr.canonicalKey :=
    unreserved fun c => not_reserved_of_mem_canonicalKey
  exact key.append (.plain (by decide) (by decide) value)

theorem canonical_ne_nil (attr : Attribute) : attr.canonical ≠ [] := by
  simp [canonical]

end Attribute

end X509
