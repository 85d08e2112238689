/-
**Addresses are read without regard to case.**

Lowering a text changes none of the characters that separate the parts of an address, and no
character's value as a digit. So every reader of a part finds the same part in the lowered text, and
leaves the lowered rest over.

* `Caseless` — a reader that gives the same value on the lowered text.
* `IpAddress.ofText?_foldCase` — the address that a text spells.
-/

import X509.Constraint.Domain

namespace X509

/-! ### Characters -/

/-- A character keeps its form unless it is one of the capital letters. -/
theorem toLower_eq_or_capital (c : Char) :
    c.toLower = c ∨ ∃ letter : Fin 26, c = Char.ofNat ('A'.toNat + letter.val) := by
  by_cases capital : 'A'.val ≤ c.val ∧ c.val ≤ 'Z'.val
  · have least : 'A'.toNat ≤ c.toNat := UInt32.le_iff_toNat_le.1 capital.1
    have most : c.toNat ≤ 'Z'.toNat := UInt32.le_iff_toNat_le.1 capital.2
    have span : 'Z'.toNat = 'A'.toNat + 25 := rfl
    refine .inr ⟨⟨c.toNat - 'A'.toNat, by omega⟩, ?_⟩
    rw [Nat.add_sub_cancel' least, Char.ofNat_toNat]
  · exact .inl (dif_neg capital)

/-- Only itself is lowered to a character that is no letter. -/
theorem toLower_eq_iff {c d : Char} (plain : d.isAlpha = false) : c.toLower = d ↔ c = d := by
  rcases toLower_eq_or_capital c with same | ⟨letter, rfl⟩
  · rw [same]
  · refine ⟨fun lowered => ?_, fun here => ?_⟩
    · subst lowered
      revert letter
      decide
    · subst here
      revert letter
      decide

/-- **What takes every capital letter for its small partner does not depend on case.** -/
theorem apply_toLower {α : Type} {f : Char → α}
    (letters : ∀ letter : Fin 26, f (Char.ofNat ('A'.toNat + letter.val)).toLower =
      f (Char.ofNat ('A'.toNat + letter.val))) (c : Char) : f c.toLower = f c := by
  rcases toLower_eq_or_capital c with same | ⟨letter, rfl⟩
  · rw [same]
  · exact letters letter

theorem decimalDigit?_toLower (c : Char) :
    IpAddress.decimalDigit? c.toLower = IpAddress.decimalDigit? c :=
  apply_toLower (by decide) c

theorem hexDigit?_toLower (c : Char) : Octets.hexDigit? c.toLower = Octets.hexDigit? c :=
  apply_toLower (by decide) c

theorem foldCase_foldCase (text : List Char) : foldCase (foldCase text) = foldCase text := by
  rw [foldCase, foldCase, List.map_map]
  exact List.map_congr_left fun c _ => apply_toLower (by decide) c

/-! ### Readers -/

/-- A reader that finds the same value in a lowered text, and leaves the lowered rest over. -/
def Caseless {α : Type} (read? : List Char → Option (α × List Char)) : Prop :=
  ∀ text, read? (foldCase text) = (read? text).map fun found => (found.1, foldCase found.2)

namespace IpAddress

variable {spelling : Spelling}

theorem digitRun_foldCase {digit? : Char → Option Nat}
    (caseless : ∀ c, digit? c.toLower = digit? c) (text : List Char) :
    digitRun digit? (foldCase text) =
      ((digitRun digit? text).1, foldCase (digitRun digit? text).2) := by
  induction text with
  | nil => rfl
  | cons c rest ih =>
    rw [show foldCase (c :: rest) = c.toLower :: foldCase rest from rfl, digitRun, digitRun,
      caseless c]
    cases digit? c with
    | none => rfl
    | some digit => simp only [ih]

theorem after?_foldCase {c : Char} (plain : c.isAlpha = false) (text : List Char) :
    after? c (foldCase text) = (after? c text).map foldCase := by
  cases text with
  | nil => rfl
  | cons d rest =>
    rw [show foldCase (d :: rest) = d.toLower :: foldCase rest from rfl, after?, after?]
    by_cases here : d = c
    · rw [if_pos here, if_pos ((toLower_eq_iff plain).2 here)]
      rfl
    · rw [if_neg here, if_neg (mt (toLower_eq_iff plain).1 here)]
      rfl

theorem caseless_decimal? (most : Nat) : Caseless (decimal? spelling most) := by
  intro text
  simp only [decimal?, digitRun_foldCase decimalDigit?_toLower]
  split <;> rfl

theorem caseless_group? : Caseless group? := by
  intro text
  simp only [group?, digitRun_foldCase hexDigit?_toLower]
  split <;> rfl

theorem caseless_v4? : Caseless (v4? spelling) := by
  intro text
  have dot : ('.' : Char).isAlpha = false := rfl
  simp only [v4?, caseless_decimal? 255 _, after?_foldCase dot, Option.bind_eq_bind,
    Option.bind_map, Option.map_bind, Function.comp_def]
  rfl

/-- What stands before a group, if anything does. -/
theorem groupStart_foldCase (isFirst : Bool) (text : List Char) :
    (if isFirst then some (foldCase text) else after? ':' (foldCase text)) =
      (if isFirst then some text else after? ':' text).map foldCase := by
  cases isFirst
  · exact after?_foldCase rfl text
  · rfl

theorem groupRun_foldCase (limit : Nat) (isFirst : Bool) (text : List Char) :
    groupRun spelling limit isFirst (foldCase text) =
      { groupRun spelling limit isFirst text with
        rest := foldCase (groupRun spelling limit isFirst text).rest } := by
  induction limit generalizing isFirst text with
  | zero => rfl
  | succ limit ih =>
    rw [groupRun, groupRun, groupStart_foldCase]
    generalize (if isFirst then some text else after? ':' text) = start
    cases start with
    | none => split <;> simp_all
    | some rest =>
      simp only [Option.map_some, Option.bind_some, caseless_v4? _, caseless_group? _]
      by_cases room : 0 < limit
      · simp only [if_pos room]
        cases v4? spelling rest with
        | some found => rfl
        | none =>
          cases group? rest with
          | some found => simp only [Option.map_none, Option.map_some, ih]
          | none => rfl
      · simp only [if_neg room]
        cases group? rest with
        | some found => simp only [Option.map_some, ih]
        | none => rfl

theorem caseless_v6? : Caseless (v6? spelling) := by
  intro text
  have colon : (':' : Char).isAlpha = false := rfl
  simp only [v6?, groupRun_foldCase, after?_foldCase colon]
  split
  · rfl
  · split
    · rfl
    · simp only [Option.bind_eq_bind, Option.bind_map, Option.map_bind, Function.comp_def,
        after?_foldCase colon, groupRun_foldCase]
      rfl

/-- **The address that a text spells does not depend on its case.** -/
theorem ofText?_foldCase (text : List Char) : ofText? (foldCase text) = ofText? text := by
  have empty (rest : List Char) : (foldCase rest).isEmpty = rest.isEmpty := List.isEmpty_map
  rw [ofText?, ofText?, caseless_v4? text, caseless_v6? text]
  cases v4? .strict text with
  | some found => simp only [Option.map_some, empty]
  | none =>
    cases v6? .strict text with
    | some found => simp only [Option.map_none, Option.map_some, empty]
    | none => rfl

end IpAddress

theorem isAddress_foldCase (host : List Char) : isAddress (foldCase host) = isAddress host := by
  rw [isAddress, isAddress, IpAddress.ofText?_foldCase]

end X509
