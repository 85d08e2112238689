/-
**Decimal numerals.**

Three readers share one notion of numeral. A plain numeral is a run of digits; a bounded one may
have a plus sign and must stay below a bound; an integer may have either sign and underscores
between its digits.

* `digits?_isSome_iff` — a plain numeral is a non-empty run of digits.
* `digits?_toDigits` — a number that was written in decimal reads back.
-/

namespace X509.Text

/-- The number that a run of digits spells, after what has been read already. -/
def digitsAfter? (value : Nat) : List Char → Option Nat
  | [] => some value
  | c :: rest => if c.isDigit then digitsAfter? (value * 10 + (c.toNat - 48)) rest else none

/-- The number that a non-empty run of decimal digits spells. -/
def digits? : List Char → Option Nat
  | [] => none
  | text => digitsAfter? 0 text

/-- A numeral below `bound`, with or without a plus sign. -/
def boundedNumeral? (bound : Nat) (text : List Char) : Option Nat :=
  let unsigned := match text with
    | '+' :: rest => rest
    | text => text
  (digits? unsigned).filter (· < bound)

/-- Digits with underscores between or after them. -/
def spacedDigits? : List Char → Option Nat
  | '_' :: _ => none
  | text => if text.isEmpty then none else digitsAfter? 0 (text.filter (· != '_'))

/-- An unsigned integer, with or without a plus sign. -/
def unsignedInteger? : List Char → Option Nat
  | '+' :: rest => spacedDigits? rest
  | text => spacedDigits? text

/-- An integer, with or without a sign. -/
def integer? : List Char → Option Int
  | '-' :: '+' :: _ => none
  | '-' :: rest => (unsignedInteger? rest).map fun value => -(value : Int)
  | text => (unsignedInteger? text).map Int.ofNat

/-- The digits of a number, at least `width` of them. -/
def padded (width value : Nat) : List Char :=
  let digits := Nat.toDigits 10 value
  List.replicate (width - digits.length) '0' ++ digits

theorem digitsAfter?_isSome_iff {value : Nat} {text : List Char} :
    (digitsAfter? value text).isSome = true ↔ ∀ c ∈ text, c.isDigit = true := by
  induction text generalizing value with
  | nil => simp [digitsAfter?]
  | cons c rest ih =>
    rw [digitsAfter?]
    split <;> simp_all

theorem digits?_isSome_iff {text : List Char} :
    (digits? text).isSome = true ↔ text ≠ [] ∧ ∀ c ∈ text, c.isDigit = true := by
  cases text with
  | nil => simp [digits?]
  | cons c rest =>
    rw [digits?]
    · simp [digitsAfter?_isSome_iff]
    · simp

/-- A run of digits is read in base ten. -/
theorem digitsAfter?_eq {text : List Char} (digits : ∀ c ∈ text, c.isDigit = true) (value : Nat) :
    digitsAfter? value text = some (Nat.ofDigitChars 10 text value) := by
  induction text generalizing value with
  | nil => rfl
  | cons c rest ih =>
    rw [digitsAfter?, if_pos (digits c List.mem_cons_self),
      ih fun d member => digits d (List.mem_cons_of_mem c member), Nat.ofDigitChars_cons,
      Nat.mul_comm]
    rfl

theorem isDigit_of_mem_toDigits {value : Nat} {c : Char} (member : c ∈ Nat.toDigits 10 value) :
    c.isDigit = true :=
  Nat.isDigit_of_mem_toDigits (by decide) (by decide) member

/-- **A number that was written in decimal reads back.** -/
theorem digits?_toDigits (value : Nat) : digits? (Nat.toDigits 10 value) = some value := by
  have digits : ∀ c ∈ Nat.toDigits 10 value, c.isDigit = true :=
    fun _ member => isDigit_of_mem_toDigits member
  have read := digitsAfter?_eq digits 0
  rw [Nat.ofDigitChars_toDigits (by decide) (by decide)] at read
  cases written : Nat.toDigits 10 value with
  | nil => exact absurd written Nat.toDigits_ne_nil
  | cons c rest =>
    rw [written] at read
    exact read

end X509.Text
