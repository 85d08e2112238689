/-
**What lower-casing leaves alone.**

Lower-casing rewrites a text character by character, in order. The characters that have a meaning
in canonical names stay as they are, no other character becomes one of them, and no character
vanishes. This is what keeps the structure of an escaped text: it is guarded afterwards if it was
before, and begins with a reserved character only if it did before.

* `lowerChar_of_reserved`, `not_reserved_of_mem_lowerChar` — single characters.
* `exists_lowercaseAfter_cons` — one step through a text.
* `Guarded.lowercaseAfter`, `head?_lowercaseAfter_ne` — whole texts.
-/

import X509.Proofs.Text.Guarded
import X509.Text.Lowercase

namespace X509.Text

/-! ### Characters -/

/-- The characters that have a meaning in canonical names. -/
def isReserved (c : Char) : Bool :=
  [',', '+', '\x22', '\\', '<', '>', ';', '#', '=', ' '].contains c

/-- What is checked of one reserved character after the other holds of all. -/
theorem of_reserved {p : Char → Bool}
    (table : [',', '+', '\x22', '\\', '<', '>', ';', '#', '=', ' '].all p = true)
    {c : Char} (reserved : isReserved c = true) : p c = true :=
  List.all_eq_true.1 table c (List.contains_iff_mem.1 reserved)

/-- Reserved characters come before the letters. -/
theorem toNat_lt_of_reserved {c : Char} (reserved : isReserved c = true) : c.toNat < 0x60 :=
  of_decide_eq_true (of_reserved (p := fun d => decide (d.toNat < 0x60)) (by decide) reserved)

/-- A text without reserved characters is guarded against all reserved stops. -/
theorem Guarded.of_unreserved {stops : Char → Bool} {text : List Char}
    (covered : ∀ c, stops c = true → isReserved c = true)
    (free : ∀ c ∈ text, isReserved c = false) : Guarded stops text := by
  refine .of_free ?_
  intro c member
  have unreserved := free c member
  constructor
  · cases stopped : stops c with
    | false => rfl
    | true => simp [covered c stopped] at unreserved
  · rintro rfl
    exact absurd unreserved (by decide)

theorem not_reserved_of_le {c : Char} (beyond : 0x60 ≤ c.toNat) : isReserved c = false := by
  cases reserved : isReserved c with
  | false => rfl
  | true => exact absurd (toNat_lt_of_reserved reserved) (Nat.not_lt.2 beyond)

/-- ASCII letters are lowered to letters, and all else in ASCII stays. -/
theorem reserved_toLower {c : Char} (ascii : c.toNat < 0x80) :
    isReserved c.toLower = isReserved c ∧ (isReserved c = true → c.toLower = c) := by
  have table : ∀ code : Fin 0x80,
      isReserved (Char.ofNat code.val).toLower = isReserved (Char.ofNat code.val) ∧
        (isReserved (Char.ofNat code.val) = true →
          (Char.ofNat code.val).toLower = Char.ofNat code.val) := by decide +kernel
  simpa only [Char.ofNat_toNat] using table ⟨c.toNat, ascii⟩

/-- The lower-case partners of letters beyond ASCII come after the reserved characters. -/
theorem not_reserved_of_run {run : CaseRun} {code : Nat} (member : run ∈ lowerRuns)
    (has : run.has code = true) :
    isReserved (Char.ofNat (code + run.offset).toNat) = false := by
  have table : ∀ run ∈ lowerRuns, 0x60 ≤ (run.first : Int) + run.offset := by decide +kernel
  have least := table run member
  have first : run.first ≤ code := by
    simp only [CaseRun.has, Bool.and_eq_true, decide_eq_true_eq] at has
    exact has.1.1
  have partner : 0x60 ≤ (code + run.offset).toNat := by omega
  by_cases valid : (code + run.offset).toNat.isValidChar
  · apply not_reserved_of_le
    rw [Char.ofNat, dif_pos valid]
    exact partner
  · rw [Char.ofNat, dif_neg valid]
    decide

theorem lowerChar_of_reserved {c : Char} (reserved : isReserved c = true) : lowerChar c = [c] := by
  have ascii : c.toNat < 0x80 := Nat.lt_trans (toNat_lt_of_reserved reserved) (by decide)
  rw [lowerChar_of_ascii ascii, (reserved_toLower ascii).2 reserved]

theorem not_reserved_of_mem_lowerChar {c d : Char} (free : isReserved c = false)
    (member : d ∈ lowerChar c) : isReserved d = false := by
  unfold lowerChar at member
  split at member
  · next ascii =>
    obtain rfl := List.mem_singleton.1 member
    rw [(reserved_toLower ascii).1, free]
  · split at member
    · simp only [List.mem_cons, List.not_mem_nil, or_false] at member
      rcases member with rfl | rfl <;> decide
    · split at member
      · next run found =>
        obtain rfl := List.mem_singleton.1 member
        have has : run.has c.toNat = true := by simpa using List.find?_some found
        exact not_reserved_of_run (List.mem_of_find?_eq_some found) has
      · obtain rfl := List.mem_singleton.1 member
        exact free

theorem lowerChar_ne_nil (c : Char) : lowerChar c ≠ [] := by
  unfold lowerChar
  split
  · simp
  · split
    · simp
    · split <;> simp

theorem not_reserved_lowerSigma (before after : List Char) :
    isReserved (lowerSigma before after) = false := by
  unfold lowerSigma
  split <;> decide

/-! ### Texts -/

/-- **One step of lower-casing** writes something for the character: the character itself if it is
reserved, and nothing reserved otherwise. -/
theorem exists_lowercaseAfter_cons (before after : List Char) (c : Char) :
    ∃ piece, lowercaseAfter before (c :: after) = piece ++ lowercaseAfter (c :: before) after ∧
      piece ≠ [] ∧ (isReserved c = true → piece = [c]) ∧
      (isReserved c = false → ∀ d ∈ piece, isReserved d = false) := by
  rw [lowercaseAfter]
  by_cases sigma : c = 'Σ'
  · rw [if_pos sigma]
    refine ⟨_, rfl, by simp, ?_, ?_⟩
    · intro reserved
      rw [sigma] at reserved
      exact absurd reserved (by decide)
    · intro _ d member
      obtain rfl := List.mem_singleton.1 member
      exact not_reserved_lowerSigma before after
  · rw [if_neg sigma]
    refine ⟨_, rfl, lowerChar_ne_nil c, lowerChar_of_reserved, ?_⟩
    intro free d member
    exact not_reserved_of_mem_lowerChar free member

variable {stops : Char → Bool} {text : List Char}

/-- **Lower-casing keeps a text guarded** against reserved stops. What is escaped stays escaped: a
reserved character is written as it is, and of anything else only the first character needs it. -/
theorem Guarded.lowercaseAfter (covered : ∀ c, stops c = true → isReserved c = true)
    (guarded : Guarded stops text) (before : List Char) :
    Guarded stops (lowercaseAfter before text) := by
  induction guarded generalizing before with
  | nil => exact .nil
  | @plain c rest free bare _ ih =>
    obtain ⟨piece, step, -, kept, others⟩ := exists_lowercaseAfter_cons before rest c
    rw [step]
    cases reserved : isReserved c with
    | true =>
      rw [kept reserved]
      exact .plain free bare (ih (c :: before))
    | false => exact (Guarded.of_unreserved covered (others reserved)).append (ih (c :: before))
  | @escaped c rest _ ih =>
    obtain ⟨_, first, -, kept, -⟩ := exists_lowercaseAfter_cons before (c :: rest) '\\'
    obtain ⟨piece, step, filled, same, others⟩ :=
      exists_lowercaseAfter_cons ('\\' :: before) rest c
    have later := ih (c :: '\\' :: before)
    rw [first, kept (by decide), step]
    cases reserved : isReserved c with
    | true =>
      rw [same reserved]
      exact .escaped c later
    | false =>
      cases piece with
      | nil => exact absurd rfl filled
      | cons d piece =>
        have free : ∀ e ∈ piece, isReserved e = false := fun e member =>
          others reserved e (List.mem_cons_of_mem d member)
        exact .escaped d ((Guarded.of_unreserved covered free).append later)

/-- **A lowered text begins with a reserved character only if the text does.** -/
theorem head?_lowercaseAfter_ne {r : Char} (reserved : isReserved r = true)
    (other : text.head? ≠ some r) (before : List Char) :
    (lowercaseAfter before text).head? ≠ some r := by
  cases text with
  | nil => simp [X509.Text.lowercaseAfter]
  | cons c rest =>
    obtain ⟨piece, step, filled, kept, others⟩ := exists_lowercaseAfter_cons before rest c
    rw [step]
    cases piece with
    | nil => exact absurd rfl filled
    | cons d piece =>
      simp only [List.cons_append, List.head?_cons, ne_eq, Option.some.injEq] at other ⊢
      rintro rfl
      cases own : isReserved c with
      | true => exact other (List.cons.inj (kept own)).1.symm
      | false => simp [others own d List.mem_cons_self] at reserved

end X509.Text
