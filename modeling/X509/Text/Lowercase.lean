/-
**Lower-casing of texts.**

Every character is replaced by its lower-case form, with one rule that looks around: a capital
sigma ends a word, and so becomes the final form, when a cased character stands before it and none
after it, case-ignorable characters not counted.

* `lowerChar_of_ascii` — ASCII characters have the usual lower-case partner.
* `lowercase_eq_map` — without characters beyond ASCII the whole is letter by letter.
-/

import X509.Text.CaseRanges

namespace X509.Text

/-- Whether a character has case. -/
def isCased (c : Char) : Bool :=
  if c.toNat < 0x80 then c.isAlpha else casedRanges.has c

/-- Whether a character is passed over when looking for a cased one. -/
def isCaseIgnorable (c : Char) : Bool :=
  if c.toNat < 0x80 then ['\'', '.', ':', '^', '\x60'].contains c else caseIgnorableRanges.has c

/-- The lower-case form of a character on its own. -/
def lowerChar (c : Char) : List Char :=
  if c.toNat < 0x80 then
    [c.toLower]
  else if c = '\u0130' then
    ['i', '\u0307']
  else
    match lowerRuns.find? (·.has c.toNat) with
    | some run => [Char.ofNat (c.toNat + run.offset).toNat]
    | none => [c]

/-- Whether the first character that is not case-ignorable has case. -/
def reachesCased (text : List Char) : Bool :=
  match text.dropWhile isCaseIgnorable with
  | [] => false
  | c :: _ => isCased c

/-- The lower-case form of a capital sigma between two stretches of text, of which the first is
given backwards. -/
def lowerSigma (before after : List Char) : Char :=
  if reachesCased before && !reachesCased after then 'ς' else 'σ'

/-- The lower-case form of the rest of a text whose beginning, backwards, is `before`. -/
def lowercaseAfter (before : List Char) : List Char → List Char
  | [] => []
  | c :: after =>
    (if c = 'Σ' then [lowerSigma before after] else lowerChar c) ++
      lowercaseAfter (c :: before) after

/-- The lower-case form of a text. -/
def lowercase (text : List Char) : List Char :=
  lowercaseAfter [] text

theorem lowerChar_of_ascii {c : Char} (ascii : c.toNat < 0x80) : lowerChar c = [c.toLower] := by
  simp [lowerChar, ascii]

/-- **ASCII texts are lowered letter by letter.** -/
theorem lowercase_eq_map {text : List Char} (ascii : ∀ c ∈ text, c.toNat < 0x80) :
    lowercase text = text.map Char.toLower := by
  suffices general : ∀ before, lowercaseAfter before text = text.map Char.toLower from general []
  induction text with
  | nil => intro before; rfl
  | cons c rest ih =>
    intro before
    have here := ascii c (by simp)
    have other : c ≠ 'Σ' := by
      rintro rfl
      exact absurd here (by decide)
    rw [lowercaseAfter, if_neg other, lowerChar_of_ascii here,
      ih fun d member => ascii d (by simp [member])]
    rfl

end X509.Text
