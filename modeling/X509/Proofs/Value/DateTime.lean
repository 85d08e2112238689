/-
**Times written again.**

Reading a time is lenient about blanks and missing digits; what is written has two digits for every
part and, for the year, two or four. Such numerals end by themselves, since a reader takes as many
digits as a part may have. So a time reads back from the short form when its year is one that two
digits stand for, and from the long form when its year has four digits. Every time that was read
from the short form has a year of the first kind.

* `DateTime.number?_padded` — a number in as many digits as may be taken.
* `DateTime.ofShortText?_shortText`, `DateTime.ofLongText?_longText` — the two forms read back.
* `DateTime.year_of_ofShortText?` — the years that two digits stand for.
* `DateTime.length_of_ofShortText?`, `DateTime.length_of_ofLongText?` — a time takes seven
  characters at least.
-/

import Mathlib.Tactic.ByContra
import X509.Proofs.Octets
import X509.Value.DateTime

namespace X509

/-! ### Padded numerals -/

namespace Text

variable {width value : Nat}

/-- A number that fits is padded to the width. -/
theorem length_padded (wide : 0 < width) (fits : value < 10 ^ width) :
    (padded width value).length = width := by
  have digits := (Nat.length_toDigits_le_iff (by decide) wide).2 fits
  rw [padded, List.length_append, List.length_replicate]
  omega

/-- A number that fits a larger width has no more digits than that. -/
theorem length_padded_le {more : Nat} (wide : 0 < more) (within : width ≤ more)
    (fits : value < 10 ^ more) : (padded width value).length ≤ more := by
  have digits := (Nat.length_toDigits_le_iff (by decide) wide).2 fits
  rw [padded, List.length_append, List.length_replicate]
  omega

theorem isDigit_of_mem_padded {c : Char} (member : c ∈ padded width value) : c.isDigit = true := by
  rcases List.mem_append.1 member with zero | digit
  · rw [List.eq_of_mem_replicate zero]
    rfl
  · exact isDigit_of_mem_toDigits digit

/-- A padded number starts with a digit. -/
theorem exists_padded_eq_cons (width value : Nat) :
    ∃ c front, padded width value = c :: front ∧ c.isDigit = true := by
  have digits : ∀ c ∈ padded width value, c.isDigit = true :=
    fun c member => isDigit_of_mem_padded member
  cases shape : padded width value with
  | nil => exact absurd (List.append_eq_nil_iff.1 shape).2 Nat.toDigits_ne_nil
  | cons c front =>
    rw [shape] at digits
    exact ⟨c, front, rfl, digits c List.mem_cons_self⟩

/-- Padding does not change the number. -/
theorem ofDigitChars_padded (width value : Nat) :
    Nat.ofDigitChars 10 (padded width value) 0 = value := by
  rw [padded, Nat.ofDigitChars_append, Nat.ofDigitChars_replicate_zero, Nat.mul_zero,
    Nat.ofDigitChars_toDigits (by decide) (by decide)]

theorem toNat_lt_of_isDigit {c : Char} (digit : c.isDigit = true) : c.toNat < 0x80 := by
  simp only [Char.isDigit, Bool.and_eq_true, decide_eq_true_eq] at digit
  exact Nat.lt_of_le_of_lt digit.2 (by decide)

/-- A digit is not blank. -/
theorem trimStart_of_isDigit {c : Char} (digit : c.isDigit = true) (rest : List Char) :
    trimStart (c :: rest) = c :: rest := by
  have visible : isBlank c = false := by
    simp only [Char.isDigit, Bool.and_eq_true, decide_eq_true_eq, UInt32.le_iff_toNat_le] at digit
    have low : 48 ≤ c.toNat := digit.1
    have high : c.toNat ≤ 57 := digit.2
    simp only [isBlank, Ranges.has, blankRanges]
    simp
    omega
  rw [trimStart, List.dropWhile_cons_of_neg (by rw [visible]; decide)]

end Text

namespace DateTime

open Text (padded trimStart)

variable {text rest front : List Char} {value places : Nat} {time : DateTime} {year : Int}

/-! ### Numbers -/

/-- Digits are taken as the number they spell, and then those that may still be taken. -/
theorem takeDigits_append_add (digits : ∀ c ∈ front, c.isDigit = true) (value more : Nat)
    (rest : List Char) :
    takeDigits value (front.length + more) (front ++ rest) =
      takeDigits (Nat.ofDigitChars 10 front value) more rest := by
  induction front generalizing value with
  | nil =>
    rw [List.length_nil, Nat.zero_add]
    rfl
  | cons c front ih =>
    rw [List.length_cons, Nat.add_right_comm, List.cons_append, takeDigits,
      if_pos (digits c List.mem_cons_self),
      ih fun other member => digits other (List.mem_cons_of_mem c member), Nat.ofDigitChars_cons,
      Nat.mul_comm]
    rfl

theorem takeDigits_append (digits : ∀ c ∈ front, c.isDigit = true) (value : Nat)
    (rest : List Char) :
    takeDigits value front.length (front ++ rest) = (Nat.ofDigitChars 10 front value, rest) := by
  have taken := takeDigits_append_add digits value 0 rest
  rw [Nat.add_zero] at taken
  rw [taken]
  cases rest <;> rfl

/-- **A number in as many digits as may be taken is taken whole,** whatever follows it. -/
theorem number?_padded (wide : 0 < places) (fits : value < 10 ^ places) (rest : List Char) :
    number? places (padded places value ++ rest) = some (value, rest) := by
  have size := Text.length_padded wide fits
  have digits : ∀ c ∈ padded places value, c.isDigit = true :=
    fun c member => Text.isDigit_of_mem_padded member
  have taken := takeDigits_append digits 0 rest
  rw [size, Text.ofDigitChars_padded] at taken
  obtain ⟨c, front, shape, digit⟩ := Text.exists_padded_eq_cons places value
  rw [shape, List.cons_append] at taken ⊢
  rw [number?, if_pos digit, taken]

/-- Nothing blank stands in front of a padded number. -/
theorem trimStart_padded (width value : Nat) (rest : List Char) :
    trimStart (padded width value ++ rest) = padded width value ++ rest := by
  obtain ⟨c, front, shape, digit⟩ := Text.exists_padded_eq_cons width value
  rw [shape]
  exact Text.trimStart_of_isDigit digit _

theorem part?_padded (fits : value < 100) (rest : List Char) :
    part? (padded 2 value ++ rest) = some (value, rest) := by
  rw [part?, trimStart_padded, number?_padded (by decide) fits]

/-- Taking digits leaves no more characters and a number with no more digits. -/
theorem takeDigits_bounds (value places : Nat) (text : List Char) :
    (takeDigits value places text).1 < (value + 1) * 10 ^ places ∧
      (takeDigits value places text).2.length ≤ text.length := by
  induction places generalizing value text with
  | zero => simp [takeDigits]
  | succ places ih =>
    have power : 0 < 10 ^ places := Nat.pow_pos (by decide)
    have least : value + 1 ≤ (value + 1) * 10 ^ (places + 1) :=
      Nat.le_mul_of_pos_right _ (Nat.pow_pos (by decide))
    cases text with
    | nil => exact ⟨least, Nat.le_refl _⟩
    | cons c rest =>
      rw [takeDigits]
      split
      · next digit =>
        obtain ⟨below, shorter⟩ := ih (value * 10 + (c.toNat - 48)) rest
        have high : c.toNat ≤ 57 := by
          simp only [Char.isDigit, Bool.and_eq_true, decide_eq_true_eq] at digit
          exact digit.2
        refine ⟨Nat.lt_of_lt_of_le below ?_, Nat.le_succ_of_le shorter⟩
        rw [Nat.pow_succ, ← Nat.mul_assoc, Nat.mul_right_comm]
        exact Nat.mul_le_mul_right _ (by omega)
      · exact ⟨least, Nat.le_refl _⟩

/-- A number has no more digits than may be taken, and takes one at least. -/
theorem bounds_of_number? (read : number? (places + 1) text = some (value, rest)) :
    value < 10 ^ (places + 1) ∧ rest.length < text.length := by
  unfold number? at read
  split at read
  · next c tail =>
    split at read
    · next digit =>
      have whole : takeDigits 0 (places + 1) (c :: tail) = (value, rest) := Option.some.inj read
      obtain ⟨below, -⟩ := takeDigits_bounds 0 (places + 1) (c :: tail)
      rw [whole, Nat.zero_add, Nat.one_mul] at below
      obtain ⟨-, shorter⟩ := takeDigits_bounds (0 * 10 + (c.toNat - 48)) places tail
      rw [takeDigits, if_pos digit] at whole
      rw [whole] at shorter
      exact ⟨below, Nat.lt_succ_of_le shorter⟩
    · cases read
  · cases read

theorem length_trimStart_le (text : List Char) : (trimStart text).length ≤ text.length :=
  List.Sublist.length_le (List.dropWhile_sublist _)

theorem bounds_of_part? (read : part? text = some (value, rest)) :
    value < 100 ∧ rest.length < text.length := by
  obtain ⟨below, shorter⟩ := bounds_of_number? read
  exact ⟨below, Nat.lt_of_lt_of_le shorter (length_trimStart_le text)⟩

/-- A year takes a character at least. -/
theorem shorter_of_year? (read : year? text = some (year, rest)) : rest.length < text.length := by
  have trimmed := length_trimStart_le text
  have signed {tail : List Char} {f : Nat × List Char → Int × List Char}
      (keeps : ∀ pair, (f pair).2 = pair.2)
      (read : (number? tail.length tail).map f = some (year, rest)) :
      rest.length ≤ tail.length := by
    obtain ⟨pair, found, same⟩ := Option.map_eq_some_iff.1 read
    cases tail with
    | nil => cases found
    | cons c tail =>
      obtain ⟨value, last⟩ := pair
      obtain ⟨-, shorter⟩ := bounds_of_number? found
      have kept := keeps (value, last)
      rw [same] at kept
      obtain rfl : rest = last := kept
      exact Nat.le_of_lt shorter
  unfold year? at read
  split at read
  · next tail shape =>
    have least := signed (fun _ => rfl) read
    rw [shape, List.length_cons] at trimmed
    omega
  · next tail shape =>
    have least := signed (fun _ => rfl) read
    rw [shape, List.length_cons] at trimmed
    omega
  · obtain ⟨pair, found, same⟩ := Option.map_eq_some_iff.1 read
    obtain ⟨value, last⟩ := pair
    obtain ⟨-, shorter⟩ := bounds_of_number? found
    obtain ⟨-, rfl⟩ := Prod.mk.inj same
    omega

/-! ### Times -/

/-- The parts of a time make that time. -/
theorem ofParts?_parts (time : DateTime) :
    ofParts? time.year time.month time.day time.hour time.minute time.second = some time :=
  dif_pos ⟨time.year_range, time.day_range, time.hour_lt, time.minute_lt, time.second_le⟩

theorem year_of_ofParts? {month day hour minute second : Nat}
    (made : ofParts? year month day hour minute second = some time) : time.year = year := by
  unfold ofParts? at made
  split at made
  · obtain rfl := Option.some.inj made
    rfl
  · cases made

/-- A month of the calendar has two digits, and so has each of its days. -/
theorem month_day_lt (time : DateTime) : time.month < 100 ∧ time.day < 100 := by
  obtain ⟨least, most⟩ := time.day_range
  have days : daysInMonth time.year time.month ≤ 31 := by
    unfold daysInMonth
    split <;> (try split) <;> omega
  refine ⟨?_, by omega⟩
  by_contra large
  have none : daysInMonth time.year time.month = 0 := by
    unfold daysInMonth
    split <;> omega
  omega

/-- **The parts after the year read back.** -/
theorem afterYear?_partsText (time : DateTime) :
    afterYear? time.year (time.partsText ++ ['Z']) = some time := by
  obtain ⟨month, day⟩ := time.month_day_lt
  have hour := time.hour_lt
  have minute := time.minute_lt
  have second := time.second_le
  have shape : time.partsText ++ ['Z'] = padded 2 time.month ++ (padded 2 time.day ++
      (padded 2 time.hour ++ (padded 2 time.minute ++ (padded 2 time.second ++ ['Z'])))) := by
    simp [partsText]
  simp only [shape, afterYear?, Option.bind_eq_bind, Option.bind_some, part?_padded month,
    part?_padded day, part?_padded (Nat.lt_trans hour (by decide)),
    part?_padded (Nat.lt_trans minute (by decide)),
    part?_padded (Nat.lt_of_le_of_lt second (by decide)), if_pos, ofParts?_parts]

/-- What is read after the year does not change the year, and takes six characters at least. -/
theorem bounds_of_afterYear? (read : afterYear? year text = some time) :
    time.year = year ∧ 6 ≤ text.length := by
  simp only [afterYear?, Option.bind_eq_bind, Option.bind_eq_some_iff] at read
  obtain ⟨_, month, _, day, _, hour, _, minute, ⟨_, last⟩, second, made⟩ := read
  split at made
  · next ended =>
    obtain rfl : last = ['Z'] := ended
    refine ⟨year_of_ofParts? made, ?_⟩
    obtain ⟨-, month⟩ := bounds_of_part? month
    obtain ⟨-, day⟩ := bounds_of_part? day
    obtain ⟨-, hour⟩ := bounds_of_part? hour
    obtain ⟨-, minute⟩ := bounds_of_part? minute
    obtain ⟨-, second⟩ := bounds_of_part? second
    rw [List.length_singleton] at second
    omega
  · cases made

/-! ### The short form -/

/-- **Two digits stand for years from 1970 to 2069.** -/
theorem year_of_ofShortText? (read : ofShortText? text = some time) :
    1970 ≤ time.year ∧ time.year ≤ 2069 := by
  simp only [ofShortText?, Option.bind_eq_bind, Option.bind_eq_some_iff] at read
  obtain ⟨⟨digits, _⟩, first, others⟩ := read
  obtain ⟨below, -⟩ := bounds_of_part? first
  obtain ⟨same, -⟩ := bounds_of_afterYear? others
  rw [same, yearOfTwoDigits]
  dsimp only
  split <;> omega

theorem length_of_ofShortText? (read : ofShortText? text = some time) : 7 ≤ text.length := by
  simp only [ofShortText?, Option.bind_eq_bind, Option.bind_eq_some_iff] at read
  obtain ⟨_, first, others⟩ := read
  obtain ⟨-, shorter⟩ := bounds_of_part? first
  obtain ⟨-, least⟩ := bounds_of_afterYear? others
  omega

/-- **A time reads back from the short form** if its year is one that two digits stand for. -/
theorem ofShortText?_shortText (within : 1970 ≤ time.year ∧ time.year ≤ 2069) :
    ofShortText? time.shortText = some time := by
  have digits : (time.year % 100).toNat < 100 := by omega
  have year : yearOfTwoDigits (time.year % 100).toNat = time.year := by
    unfold yearOfTwoDigits
    split <;> omega
  have shape : time.shortText =
      padded 2 (time.year % 100).toNat ++ (time.partsText ++ ['Z']) := List.append_assoc ..
  simp only [shape, ofShortText?, Option.bind_eq_bind, part?_padded digits, Option.bind_some,
    year, afterYear?_partsText]

/-! ### The long form -/

theorem length_of_ofLongText? (read : ofLongText? text = some time) : 7 ≤ text.length := by
  simp only [ofLongText?, Option.bind_eq_bind, Option.bind_eq_some_iff] at read
  obtain ⟨_, first, others⟩ := read
  have shorter := shorter_of_year? first
  obtain ⟨-, least⟩ := bounds_of_afterYear? others
  omega

theorem year?_padded (fits : value < 10000) (rest : List Char) :
    year? (padded 4 value ++ rest) = some ((value : Int), rest) := by
  have taken : number? 4 (padded 4 value ++ rest) = some (value, rest) :=
    number?_padded (by decide) fits rest
  obtain ⟨c, front, shape, digit⟩ := Text.exists_padded_eq_cons 4 value
  unfold year?
  rw [trimStart_padded]
  rw [shape] at taken ⊢
  -- A sign is no digit.
  split
  · next same =>
    obtain ⟨rfl, -⟩ := List.cons.inj same
    cases digit
  · next same =>
    obtain ⟨rfl, -⟩ := List.cons.inj same
    cases digit
  · rw [taken]
    rfl

/-- **A time reads back from the long form** if its year has four digits. -/
theorem ofLongText?_longText (within : 0 ≤ time.year ∧ time.year ≤ 9999) :
    ofLongText? time.longText = some time := by
  have digits : time.year.toNat < 10000 := by omega
  have year : (time.year.toNat : Int) = time.year := Int.toNat_of_nonneg within.1
  have shape : time.longText = padded 4 time.year.toNat ++ (time.partsText ++ ['Z']) := by
    rw [longText, yearText, if_pos within, List.append_assoc]
  simp only [shape, ofLongText?, Option.bind_eq_bind, year?_padded digits, Option.bind_some, year,
    afterYear?_partsText]

/-! ### Octets -/

/-- Every part of a time after the year has two digits. -/
theorem parts_lt (time : DateTime) :
    ∀ part ∈ [time.month, time.day, time.hour, time.minute, time.second], part < 100 := by
  obtain ⟨month, day⟩ := time.month_day_lt
  have hour := time.hour_lt
  have minute := time.minute_lt
  have second := time.second_le
  simp only [List.forall_mem_cons, List.not_mem_nil, false_implies, implies_true, and_true]
  omega

theorem length_partsText (time : DateTime) : time.partsText.length = 10 := by
  have size : ∀ part ∈ [time.month, time.day, time.hour, time.minute, time.second],
      (padded 2 part).length = 2 := fun part member =>
    Text.length_padded (by decide) (time.parts_lt part member)
  simp only [List.forall_mem_cons] at size
  obtain ⟨month, day, hour, minute, second, -⟩ := size
  simp only [partsText, List.flatMap_cons, List.flatMap_nil, List.length_append, List.length_nil,
    month, day, hour, minute, second]

theorem isDigit_of_mem_partsText {c : Char} (member : c ∈ time.partsText) : c.isDigit = true := by
  obtain ⟨part, -, inside⟩ := List.mem_flatMap.1 member
  exact Text.isDigit_of_mem_padded inside

/-- Digits, signs and the mark at the end have one octet each. -/
theorem length_ofText_of_isDigit_or
    (simple : ∀ c ∈ text, c.isDigit = true ∨ c ∈ ['-', '+', 'Z']) :
    (Octets.ofText (String.ofList text)).length = text.length := by
  rw [Octets.length_ofText_of_ascii, String.toList_ofList]
  rw [String.toList_ofList]
  intro c member
  rcases simple c member with digit | other
  · exact Text.toNat_lt_of_isDigit digit
  · simp only [List.mem_cons, List.not_mem_nil, or_false] at other
    rcases other with rfl | rfl | rfl <;> decide

/-- A padded year, the parts after it and the mark at the end have one octet for each character. -/
theorem length_ofText_padded {width : Nat} (wide : 0 < width) (fits : value < 10 ^ width)
    (time : DateTime) :
    (Octets.ofText (String.ofList (padded width value ++ (time.partsText ++ ['Z'])))).length =
      width + 11 := by
  rw [length_ofText_of_isDigit_or, List.length_append, List.length_append,
    Text.length_padded wide fits, length_partsText, List.length_singleton]
  intro c member
  rw [List.mem_append, List.mem_append, List.mem_singleton] at member
  rcases member with year | part | rfl
  · exact .inl (Text.isDigit_of_mem_padded year)
  · exact .inl (isDigit_of_mem_partsText part)
  · exact .inr (by decide)

theorem length_ofText_shortText (time : DateTime) :
    (Octets.ofText (String.ofList time.shortText)).length = 13 := by
  have digits : (time.year % 100).toNat < 10 ^ 2 := by omega
  rw [shortText, List.append_assoc]
  exact length_ofText_padded (by decide) digits time

theorem length_ofText_longText (within : 0 ≤ time.year ∧ time.year ≤ 9999) :
    (Octets.ofText (String.ofList time.longText)).length = 15 := by
  have digits : time.year.toNat < 10 ^ 4 := by omega
  rw [longText, yearText, if_pos within, List.append_assoc]
  exact length_ofText_padded (by decide) digits time

end DateTime

end X509
