/-
**Decimal numerals and the numbers they spell.**

A numeral is a run of digits, with or without a plus sign in front. Zeros in front of the other
digits do not count, so a number has many numerals. One of them is what the number is written as: it
has neither a sign nor a zero that could be left out.

* `IsNumeral` — a numeral and the number it spells.
* `boundedNumeral?_eq_some_iff` — the numerals below a bound are what is read, as their numbers.
* `toDigits_append` — digits behind a positive number make the digits of a larger one.
* `IsNumeral.eq_toDigits_iff` — which numeral of a number is the written one.
-/

import X509.Text.Decimal

namespace X509.Text

variable {text digits : List Char} {value bound : Nat}

/-- Decimal digits, one at least. -/
structure IsRun (digits : List Char) : Prop where
  filled : digits ≠ []
  each : ∀ c ∈ digits, c.isDigit = true

/-- **A numeral and the number it spells:** a run of digits, read in base ten, with or without a
plus sign in front. -/
inductive IsNumeral : List Char → Nat → Prop where
  | plain {digits : List Char} (run : IsRun digits) :
      IsNumeral digits (Nat.ofDigitChars 10 digits 0)
  | signed {digits : List Char} (run : IsRun digits) :
      IsNumeral ('+' :: digits) (Nat.ofDigitChars 10 digits 0)

/-- **A zero that could be left out,** since more stands behind it: at the beginning of a text or
after its plus sign. -/
inductive IsPadded : List Char → Prop where
  | plain (next : Char) (rest : List Char) : IsPadded ('0' :: next :: rest)
  | signed (next : Char) (rest : List Char) : IsPadded ('+' :: '0' :: next :: rest)

/-! ### Reading -/

theorem not_isRun_plus (rest : List Char) : ¬ IsRun ('+' :: rest) := by
  intro run
  have digit := run.each '+' List.mem_cons_self
  exact absurd digit (by decide)

theorem isRun_toDigits (value : Nat) : IsRun (Nat.toDigits 10 value) :=
  ⟨Nat.toDigits_ne_nil, fun _ member => isDigit_of_mem_toDigits member⟩

/-- A number as it is written is one of its numerals. -/
theorem isNumeral_toDigits (value : Nat) : IsNumeral (Nat.toDigits 10 value) value := by
  have numeral := IsNumeral.plain (isRun_toDigits value)
  rwa [Nat.ofDigitChars_ten_toDigits] at numeral

/-- A run of digits is read in base ten, and nothing else is. -/
theorem digits?_eq_some_iff :
    digits? text = some value ↔ IsRun text ∧ Nat.ofDigitChars 10 text 0 = value := by
  have reads (run : IsRun text) : digits? text = some (Nat.ofDigitChars 10 text 0) := by
    rw [← digitsAfter?_eq run.each]
    cases text with
    | nil => exact absurd rfl run.filled
    | cons c rest => rfl
  constructor
  · intro read
    have some : (digits? text).isSome = true := by rw [read]; rfl
    obtain ⟨filled, each⟩ := digits?_isSome_iff.1 some
    have run : IsRun text := ⟨filled, each⟩
    rw [reads run] at read
    exact ⟨run, Option.some.inj read⟩
  · rintro ⟨run, rfl⟩
    exact reads run

/-- **The numerals of the numbers below a bound are what is read,** as these numbers. -/
theorem boundedNumeral?_eq_some_iff :
    boundedNumeral? bound text = some value ↔ IsNumeral text value ∧ value < bound := by
  unfold boundedNumeral?
  simp only [Option.filter_eq_some_iff, decide_eq_true_eq, digits?_eq_some_iff]
  refine and_congr_left' ?_
  split
  · next rest =>
    constructor
    · rintro ⟨run, rfl⟩
      exact .signed run
    · intro numeral
      cases numeral with
      | plain run => exact absurd run (not_isRun_plus rest)
      | signed run => exact ⟨run, rfl⟩
  · next unsigned =>
    constructor
    · rintro ⟨run, rfl⟩
      exact .plain run
    · intro numeral
      cases numeral with
      | plain run => exact ⟨run, rfl⟩
      | @signed digits run => exact absurd rfl (unsigned digits)

/-! ### Writing -/

/-- A digit is what the number it stands for is written as. -/
theorem toDigits_of_isDigit {c : Char} (digit : c.isDigit = true) :
    c.toNat - 48 < 10 ∧ Nat.toDigits 10 (c.toNat - 48) = [c] := by
  obtain ⟨least, most⟩ := Char.isDigit_iff_toNat.1 digit
  simp only [Char.reduceToNat] at least most
  have small : c.toNat - 48 < 10 := by omega
  refine ⟨small, ?_⟩
  rw [Nat.toDigits_of_lt_base small, List.singleton_inj, ← Char.toNat_inj,
    Nat.toNat_digitChar_of_lt_ten small]
  omega

/-- **Digits behind a positive number make the digits of a larger one.** -/
theorem toDigits_append (positive : 0 < value) (each : ∀ c ∈ digits, c.isDigit = true) :
    Nat.toDigits 10 value ++ digits = Nat.toDigits 10 (Nat.ofDigitChars 10 digits value) := by
  induction digits generalizing value with
  | nil => rw [List.append_nil, Nat.ofDigitChars_nil]
  | cons c rest ih =>
    obtain ⟨here, others⟩ := List.forall_mem_cons.1 each
    obtain ⟨small, written⟩ := toDigits_of_isDigit here
    calc Nat.toDigits 10 value ++ c :: rest
        = Nat.toDigits 10 value ++ Nat.toDigits 10 (c.toNat - 48) ++ rest := by
          rw [written, List.append_assoc, List.singleton_append]
      _ = Nat.toDigits 10 (10 * value + (c.toNat - 48)) ++ rest := by
          rw [Nat.toDigits_append_toDigits (by decide) positive small]
      _ = Nat.toDigits 10 (Nat.ofDigitChars 10 rest (10 * value + (c.toNat - 48))) :=
          ih (by omega) others
      _ = Nat.toDigits 10 (Nat.ofDigitChars 10 (c :: rest) value) := by
          rw [Nat.ofDigitChars_cons]
          rfl

/-- **A run of digits is written again,** unless it begins with a zero that could be left out. -/
theorem toDigits_ofDigitChars (run : IsRun digits) (plain : ¬ IsPadded digits) :
    Nat.toDigits 10 (Nat.ofDigitChars 10 digits 0) = digits := by
  cases digits with
  | nil => exact absurd rfl run.filled
  | cons c rest =>
    obtain ⟨here, others⟩ := List.forall_mem_cons.1 run.each
    obtain ⟨-, written⟩ := toDigits_of_isDigit here
    have first : Nat.ofDigitChars 10 (c :: rest) 0 = Nat.ofDigitChars 10 rest (c.toNat - 48) := by
      rw [Nat.ofDigitChars_cons, Nat.mul_zero, Nat.zero_add]
      rfl
    rw [first]
    cases rest with
    | nil => rw [Nat.ofDigitChars_nil, written]
    | cons next rest =>
      have positive : 0 < c.toNat - 48 := by
        refine Nat.pos_of_ne_zero fun zero => plain ?_
        rw [zero, Nat.toDigits_zero, List.singleton_inj] at written
        exact written ▸ .plain next rest
      rw [← toDigits_append positive others, written, List.singleton_append]

/-- A positive number is not written with a zero in front. More digits only come behind, so the
induction is on the digits from the first one on. -/
theorem head?_toDigits_ne_zero (positive : 0 < value) :
    (Nat.toDigits 10 value).head? ≠ some '0' := by
  induction value using Nat.base_induction 10 (by decide) with
  | single digit small =>
    rw [Nat.toDigits_of_lt_base small, List.head?_cons, ne_eq, Option.some_inj,
      Nat.digitChar_eq_zero]
    exact Nat.ne_of_gt positive
  | digit front last small nonzero ih =>
    have filled : Nat.toDigits 10 front ≠ [] := Nat.toDigits_ne_nil
    obtain ⟨first, others, shape⟩ := List.exists_cons_of_ne_nil filled
    rw [← Nat.toDigits_append_toDigits (by decide) nonzero small, shape]
    rw [shape] at ih
    exact ih nonzero

theorem not_isPadded_toDigits (value : Nat) : ¬ IsPadded (Nat.toDigits 10 value) := by
  intro padded
  have run := isRun_toDigits value
  generalize written : Nat.toDigits 10 value = text at padded run
  cases padded with
  | plain next rest =>
    by_cases zero : value = 0
    · rw [zero, Nat.toDigits_zero] at written
      cases written
    · exact head?_toDigits_ne_zero (Nat.pos_of_ne_zero zero) (by rw [written, List.head?_cons])
  | signed next rest => exact not_isRun_plus _ run

/-- **The numeral that a number is written as** is the one with neither a sign nor a zero that could
be left out. -/
theorem IsNumeral.eq_toDigits_iff (numeral : IsNumeral text value) :
    text = Nat.toDigits 10 value ↔ text.head? ≠ some '+' ∧ ¬ IsPadded text := by
  constructor
  · rintro rfl
    refine ⟨fun sign => ?_, not_isPadded_toDigits value⟩
    obtain ⟨rest, written⟩ := List.head?_eq_some_iff.1 sign
    exact not_isRun_plus rest (written ▸ isRun_toDigits value)
  · rintro ⟨unsigned, plain⟩
    cases numeral with
    | plain run => exact (toDigits_ofDigitChars run plain).symm
    | signed run => exact absurd rfl unsigned

end X509.Text
