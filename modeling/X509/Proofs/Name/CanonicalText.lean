/-
**What the canonical text of a value keeps.**

A text value becomes its words with single spaces between them, escaped and in lower case. None of
these steps sees the case of ASCII letters. On the other hand escaping loses nothing, and words are
found again between the spaces; and in an ASCII text nothing but letters is changed by lower-casing.
So two ASCII texts have the same canonical form exactly when they have the same words but for
capitals.

* `canonicalText_foldCase` — capitals do not matter.
* `escapeText_injective`, `Text.join_injective_of_not_mem` — what is not lost.
* `canonicalText_eq_iff_of_ascii` — ASCII texts by their words.
-/

import Mathlib.Logic.Function.Basic
import X509.Name.Canonical
import X509.Proofs.Text.Case
import X509.Proofs.Text.Guarded

namespace X509

/-! ### Words -/

namespace Text

/-- The characters of a piece are characters of the text. -/
theorem mem_of_mem_splitWhere {separates : Char → Bool} {text piece : List Char} {c : Char}
    (member : piece ∈ splitWhere separates text) (inside : c ∈ piece) : c ∈ text := by
  induction text generalizing piece with
  | nil =>
    obtain rfl := List.mem_singleton.1 member
    exact inside
  | cons d rest ih =>
    rw [splitWhere] at member
    split at member
    · rcases List.mem_cons.1 member with rfl | later
      · cases inside
      · exact List.mem_cons_of_mem d (ih later inside)
    · split at member
      · obtain rfl := List.mem_singleton.1 member
        obtain rfl := List.mem_singleton.1 inside
        exact List.mem_cons_self
      · next first pieces shape =>
        rw [shape] at ih
        rcases List.mem_cons.1 member with rfl | later
        · rcases List.mem_cons.1 inside with rfl | inner
          · exact List.mem_cons_self
          · exact List.mem_cons_of_mem d (ih List.mem_cons_self inner)
        · exact List.mem_cons_of_mem d (ih (List.mem_cons_of_mem first later) inside)

/-- Words are not empty, and their characters are those of the text that are not blank. -/
theorem of_mem_words {text word : List Char} (member : word ∈ words text) :
    word ≠ [] ∧ ∀ c ∈ word, isBlank c = false ∧ c ∈ text := by
  obtain ⟨piece, filled⟩ := List.mem_filter.1 member
  refine ⟨by simpa using filled, fun c inside => ⟨?_, mem_of_mem_splitWhere piece inside⟩⟩
  exact forall_mem_splitWhere piece c inside

/-- **Pieces without the separator are found again,** if none is empty. -/
theorem join_injective_of_not_mem {separator : Char} {pieces pieces' : List (List Char)}
    (plain : ∀ piece ∈ pieces, piece ≠ [] ∧ separator ∉ piece)
    (plain' : ∀ piece ∈ pieces', piece ≠ [] ∧ separator ∉ piece)
    (same : join [separator] pieces = join [separator] pieces') : pieces = pieces' := by
  have filled {pieces : List (List Char)}
      (plain : ∀ piece ∈ pieces, piece ≠ [] ∧ separator ∉ piece) (some : pieces ≠ []) :
      join [separator] pieces ≠ [] := join_ne_nil some fun piece member => (plain piece member).1
  by_cases none : pieces = [] <;> by_cases none' : pieces' = []
  · rw [none, none']
  · rw [none] at same
    exact absurd same.symm (filled plain' none')
  · rw [none'] at same
    exact absurd same (filled plain none)
  · rw [← splitOn_join none fun piece member => (plain piece member).2, same,
      splitOn_join none' fun piece member => (plain' piece member).2]

end Text

/-! ### Escapes -/

/-- A character, with a backslash before it if it is to be escaped. -/
def escapeWhere (escaped : Char → Bool) (c : Char) : List Char :=
  if escaped c then ['\\', c] else [c]

/-- Whether a character is escaped at the start of a text. -/
def isSpecialFirst (c : Char) : Bool :=
  c == '#' || isSpecial c

theorem escapeText_cons (c : Char) (rest : List Char) :
    escapeText (c :: rest) =
      escapeWhere isSpecialFirst c ++ rest.flatMap (escapeWhere isSpecial) := by
  by_cases sign : c = '#'
  · subst sign
    rfl
  · have same : isSpecialFirst c = isSpecial c := by simp [isSpecialFirst, sign]
    rw [escapeText, escapeWhere, same]
    · rfl
    · exact sign

section Escapes

variable {escaped : Char → Bool}

/-- A backslash is read with the character after it, so what is written first is found first. -/
theorem escapeWhere_append_inj (backslash : escaped '\\' = true) {c d : Char}
    {rest rest' : List Char}
    (same : escapeWhere escaped c ++ rest = escapeWhere escaped d ++ rest') :
    c = d ∧ rest = rest' := by
  unfold escapeWhere at same
  by_cases first : escaped c = true <;> by_cases second : escaped d = true
  · rw [if_pos first, if_pos second] at same
    simpa using same
  · rw [if_pos first, if_neg second] at same
    rw [(List.cons.inj same).1] at backslash
    exact absurd backslash second
  · rw [if_neg first, if_pos second] at same
    rw [← (List.cons.inj same).1] at backslash
    exact absurd backslash first
  · rw [if_neg first, if_neg second] at same
    simpa using same

theorem escapeWhere_ne_nil (c : Char) : escapeWhere escaped c ≠ [] := by
  unfold escapeWhere
  split <;> simp

theorem mem_of_mem_escapeWhere {c d : Char} (member : d ∈ escapeWhere escaped c) :
    d = '\\' ∨ d = c := by
  unfold escapeWhere at member
  split at member <;> simp at member
  · exact member
  · exact .inr member

theorem escapeWhere_toLower {c : Char} (caseless : escaped c.toLower = escaped c) :
    escapeWhere escaped c.toLower = foldCase (escapeWhere escaped c) := by
  unfold escapeWhere
  rw [caseless]
  split <;> rfl

end Escapes

theorem flatMap_escapeWhere_injective {escaped : Char → Bool} (backslash : escaped '\\' = true) :
    Function.Injective (List.flatMap (escapeWhere escaped)) := by
  intro text text' same
  induction text generalizing text' with
  | nil =>
    cases text' with
    | nil => rfl
    | cons d rest' =>
      have empty := (List.append_eq_nil_iff.1 same.symm).1
      exact absurd empty (escapeWhere_ne_nil d)
  | cons c rest ih =>
    cases text' with
    | nil => exact absurd (List.append_eq_nil_iff.1 same).1 (escapeWhere_ne_nil c)
    | cons d rest' =>
      obtain ⟨rfl, later⟩ := escapeWhere_append_inj backslash same
      rw [ih later]

/-- **Escaping loses nothing.** -/
theorem escapeText_injective : Function.Injective escapeText := by
  intro text text' same
  cases text with
  | nil =>
    cases text' with
    | nil => rfl
    | cons d rest' =>
      rw [escapeText_cons] at same
      exact absurd (List.append_eq_nil_iff.1 same.symm).1 (escapeWhere_ne_nil d)
  | cons c rest =>
    cases text' with
    | nil =>
      rw [escapeText_cons] at same
      exact absurd (List.append_eq_nil_iff.1 same).1 (escapeWhere_ne_nil c)
    | cons d rest' =>
      rw [escapeText_cons, escapeText_cons] at same
      obtain ⟨rfl, later⟩ := escapeWhere_append_inj (by decide) same
      rw [flatMap_escapeWhere_injective (by decide) later]

theorem mem_of_mem_escapeText {text : List Char} {c : Char} (member : c ∈ escapeText text) :
    c = '\\' ∨ c ∈ text := by
  cases text with
  | nil => exact .inr member
  | cons d rest =>
    rw [escapeText_cons, List.mem_append] at member
    rcases member with first | later
    · rcases mem_of_mem_escapeWhere first with backslash | rfl
      · exact .inl backslash
      · exact .inr List.mem_cons_self
    · obtain ⟨e, inside, here⟩ := List.mem_flatMap.1 later
      rcases mem_of_mem_escapeWhere here with backslash | rfl
      · exact .inl backslash
      · exact .inr (List.mem_cons_of_mem d inside)

theorem flatMap_escapeWhere_foldCase {escaped : Char → Bool}
    (caseless : ∀ c : Char, escaped c.toLower = escaped c) (text : List Char) :
    (foldCase text).flatMap (escapeWhere escaped) =
      foldCase (text.flatMap (escapeWhere escaped)) := by
  unfold foldCase
  rw [List.flatMap_map, List.map_flatMap]
  exact congrArg (text.flatMap ·) (funext fun c => escapeWhere_toLower (caseless c))

/-- A folded text is escaped at the same places. -/
theorem escapeText_foldCase (text : List Char) :
    escapeText (foldCase text) = foldCase (escapeText text) := by
  have first (c : Char) : isSpecialFirst c.toLower = isSpecialFirst c := apply_toLower (by decide) c
  have later (c : Char) : isSpecial c.toLower = isSpecial c := apply_toLower (by decide) c
  cases text with
  | nil => rfl
  | cons c rest =>
    show escapeText (c.toLower :: foldCase rest) = foldCase (escapeText (c :: rest))
    rw [escapeText_cons, escapeText_cons, escapeWhere_toLower (first c),
      flatMap_escapeWhere_foldCase later]
    exact List.map_append.symm

/-! ### Values -/

/-- **The canonical text of a value does not depend on the case of ASCII letters.** -/
theorem canonicalText_foldCase (text : List Char) :
    canonicalText (foldCase text) = canonicalText text := by
  unfold canonicalText
  rw [Text.words_foldCase, Text.join_foldCase (by decide), escapeText_foldCase,
    Text.lowercase_foldCase]

/-- The canonical text of an ASCII value is made of its words in small letters. -/
theorem canonicalText_of_ascii {text : List Char} (ascii : ∀ c ∈ text, c.toNat < 0x80) :
    canonicalText text = escapeText (Text.join [' '] (Text.words (foldCase text))) := by
  have escaped : ∀ c ∈ escapeText (Text.join [' '] (Text.words text)), c.toNat < 0x80 := by
    intro c member
    rcases mem_of_mem_escapeText member with rfl | inside
    · decide
    · rcases Text.mem_of_mem_join inside with space | ⟨word, found, inner⟩
      · rw [List.mem_singleton.1 space]
        decide
      · exact ascii c ((Text.of_mem_words found).2 c inner).2
  have lowered := Text.lowercase_eq_map escaped
  rw [← foldCase, ← escapeText_foldCase, ← Text.join_foldCase (by decide),
    ← Text.words_foldCase] at lowered
  exact lowered

/-- **Two ASCII values have the same canonical text exactly when they have the same words,** but for
capitals. -/
theorem canonicalText_eq_iff_of_ascii {text text' : List Char} (ascii : ∀ c ∈ text, c.toNat < 0x80)
    (ascii' : ∀ c ∈ text', c.toNat < 0x80) :
    canonicalText text = canonicalText text' ↔
      Text.words (foldCase text) = Text.words (foldCase text') := by
  rw [canonicalText_of_ascii ascii, canonicalText_of_ascii ascii']
  have plain (text : List Char) : ∀ word ∈ Text.words text, word ≠ [] ∧ ' ' ∉ word := by
    intro word member
    obtain ⟨filled, letters⟩ := Text.of_mem_words member
    exact ⟨filled, fun space => Bool.false_ne_true ((letters ' ' space).1.symm.trans (by decide))⟩
  constructor
  · intro same
    exact Text.join_injective_of_not_mem (plain _) (plain _) (escapeText_injective same)
  · intro same
    rw [same]

end X509
