/-
**Texts that differ in ASCII case.**

Lower-casing does not see whether an ASCII letter is a capital: the letter is written the same, it
has case in both forms, and so a capital sigma beside it takes the same form. Blanks are no letters,
so the words of a text keep their places.

* `words_foldCase`, `join_foldCase` — words are folded one by one.
* `lowercase_foldCase` — a folded text has the same lower-case form.
-/

import X509.Proofs.Address.Case
import X509.Text.Blank
import X509.Text.Lowercase

namespace X509.Text

/-! ### Words -/

/-- **The words of a folded text are the folded words.** -/
theorem words_foldCase (text : List Char) : words (foldCase text) = (words text).map foldCase := by
  have blank (c : Char) : isBlank c.toLower = isBlank c := apply_toLower (by decide) c
  have filled : (fun word => !word.isEmpty) ∘ foldCase = fun word => !word.isEmpty := by
    funext word
    rw [Function.comp_apply, foldCase, List.isEmpty_map]
  unfold words
  rw [foldCase, splitWhere_map blank, List.filter_map]
  exact congrArg (fun keeps => (List.filter keeps _).map foldCase) filled

/-- Pieces are folded one by one if what stands between them has no letters. -/
theorem join_foldCase {separator : List Char} (plain : foldCase separator = separator)
    (pieces : List (List Char)) :
    join separator (pieces.map foldCase) = foldCase (join separator pieces) := by
  induction pieces with
  | nil => rfl
  | cons piece pieces ih =>
    cases pieces with
    | nil => rfl
    | cons next pieces =>
      show foldCase piece ++ separator ++ join separator ((next :: pieces).map foldCase) =
        foldCase (piece ++ separator ++ join separator (next :: pieces))
      rw [ih]
      unfold foldCase at plain ⊢
      rw [List.map_append, List.map_append, plain]

/-! ### Lower case -/

theorem lowerChar_toLower (c : Char) : lowerChar c.toLower = lowerChar c :=
  apply_toLower (by decide) c

theorem reachesCased_foldCase (text : List Char) :
    reachesCased (foldCase text) = reachesCased text := by
  have ignorable : isCaseIgnorable ∘ Char.toLower = isCaseIgnorable := by
    funext c
    exact apply_toLower (by decide) c
  have cased (c : Char) : isCased c.toLower = isCased c := apply_toLower (by decide) c
  unfold reachesCased
  rw [foldCase, List.dropWhile_map, ignorable]
  cases text.dropWhile isCaseIgnorable with
  | nil => rfl
  | cons c rest => exact cased c

/-- The text before, too, may be folded: a capital sigma only asks whether there are letters. -/
theorem lowercaseAfter_foldCase (before text : List Char) :
    lowercaseAfter (foldCase before) (foldCase text) = lowercaseAfter before text := by
  induction text generalizing before with
  | nil => rfl
  | cons c after ih =>
    have sigma : c.toLower = 'Σ' ↔ c = 'Σ' := toLower_eq_iff (by decide)
    have form : lowerSigma (foldCase before) (foldCase after) = lowerSigma before after := by
      rw [lowerSigma, lowerSigma, reachesCased_foldCase, reachesCased_foldCase]
    show (if c.toLower = 'Σ' then [lowerSigma (foldCase before) (foldCase after)]
        else lowerChar c.toLower) ++ lowercaseAfter (foldCase (c :: before)) (foldCase after) =
      lowercaseAfter before (c :: after)
    rw [ih, form, lowerChar_toLower, lowercaseAfter]
    simp only [sigma]

/-- **Lower-casing does not see the case of ASCII letters.** -/
theorem lowercase_foldCase (text : List Char) : lowercase (foldCase text) = lowercase text :=
  lowercaseAfter_foldCase [] text

end X509.Text
