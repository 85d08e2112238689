/-
**Times of any year, written and read.**

Two digits stand for the years from 1970 to 2069, and four for those from 0 to 9999. A time of any
other year is written all the same. The short form drops its century: what is read is the time with
the same two digits in the years that they stand for, which always is a day of the calendar, since
2000 is a leap year. The long form gives such a year a sign, and behind a sign all digits that
follow are taken for the year, so that no time is left to be read.

* `DateTime.windowed` — the time that is read from the short form.
* `DateTime.ofLongText?_of_signed` — the long form with a sign.
* `Element.exists_octets_utcTime`, `Element.exists_octets_generalizedTime` — both forms in octets.
* `Element.times_readBack` — which times read back, and what is read for the others.
-/

import X509.Proofs.Element.Rewriting

namespace X509

namespace DateTime

open Text (padded trimStart)

variable {time : DateTime} {year : Int} {month : Nat} {front : List Char}

/-! ### Two digits for the year -/

/-- The year from 1970 to 2069 with the same last two digits. -/
def windowYear (year : Int) : Int :=
  yearOfTwoDigits (year % 100).toNat

theorem windowYear_range (year : Int) : 1970 ≤ windowYear year ∧ windowYear year ≤ 2069 := by
  unfold windowYear yearOfTwoDigits
  split <;> omega

theorem windowYear_emod (year : Int) : windowYear year % 100 = year % 100 := by
  unfold windowYear yearOfTwoDigits
  split <;> omega

theorem windowYear_eq_iff : windowYear year = year ↔ 1970 ≤ year ∧ year ≤ 2069 := by
  unfold windowYear yearOfTwoDigits
  split <;> omega

/-- A leap year stays one: apart from the last two digits of 2000, four divides the century. -/
theorem isLeapYear_windowYear (leap : isLeapYear year = true) :
    isLeapYear (windowYear year) = true := by
  have range := windowYear_range year
  have digits := windowYear_emod year
  simp only [isLeapYear, Bool.and_eq_true, Bool.or_eq_true, beq_iff_eq, bne_iff_ne] at leap ⊢
  omega

/-- Only February asks for the year. -/
theorem daysInMonth_eq_of_ne (rest : month ≠ 2) (year other : Int) :
    daysInMonth year month = daysInMonth other month := by
  unfold daysInMonth
  split <;> trivial

/-- No month gets shorter. -/
theorem daysInMonth_le_windowYear (year : Int) (month : Nat) :
    daysInMonth year month ≤ daysInMonth (windowYear year) month := by
  by_cases february : month = 2
  · rw [february]
    simp only [daysInMonth]
    by_cases leap : isLeapYear year = true
    · rw [if_pos leap, if_pos (isLeapYear_windowYear leap)]
    · rw [if_neg leap]
      split <;> omega
  · rw [daysInMonth_eq_of_ne february year (windowYear year)]

/-- **The time with the year that two digits stand for,** and all other parts the same. -/
def windowed (time : DateTime) : DateTime :=
  { time with
    year := windowYear time.year
    year_range := by
      have range := windowYear_range time.year
      omega
    day_range :=
      ⟨time.day_range.1, Nat.le_trans time.day_range.2 (daysInMonth_le_windowYear _ _)⟩ }

theorem windowed_eq_iff : time.windowed = time ↔ 1970 ≤ time.year ∧ time.year ≤ 2069 := by
  rw [← windowYear_eq_iff]
  constructor
  · intro same
    exact congrArg DateTime.year same
  · intro same
    cases time
    simp only [windowed, same]

/-- **The short form of any time is read,** as the time in the years that two digits stand for. -/
theorem ofShortText?_eq_windowed (time : DateTime) :
    ofShortText? time.shortText = some time.windowed := by
  have same : time.windowed.shortText = time.shortText := by
    rw [shortText, shortText, windowed, windowYear_emod]
    rfl
  rw [← same]
  exact ofShortText?_shortText (windowYear_range time.year)

/-! ### A sign before the year -/

/-- A run of digits is one number, as long as no more of them may be taken. -/
theorem number?_run (filled : front ≠ []) (digits : ∀ c ∈ front, c.isDigit = true) :
    number? (front ++ ['Z']).length (front ++ ['Z']) =
      some (Nat.ofDigitChars 10 front 0, ['Z']) := by
  have taken := takeDigits_append_add digits 0 1 ['Z']
  rw [List.length_append, List.length_singleton]
  cases front with
  | nil => exact absurd rfl filled
  | cons c rest =>
    rw [List.cons_append] at taken ⊢
    rw [number?, if_pos (digits c List.mem_cons_self), taken]
    rfl

/-- A year with a sign takes all digits that follow. -/
theorem exists_year?_of_signed {sign : Char} (signed : sign = '-' ∨ sign = '+')
    (filled : front ≠ []) (digits : ∀ c ∈ front, c.isDigit = true) :
    ∃ year, year? (sign :: (front ++ ['Z'])) = some (year, ['Z']) := by
  have run := number?_run filled digits
  rcases signed with rfl | rfl
  · refine ⟨-(Nat.ofDigitChars 10 front 0 : Int), ?_⟩
    have shape : year? ('-' :: (front ++ ['Z'])) =
        (number? (front ++ ['Z']).length (front ++ ['Z'])).map
          fun pair => (-(pair.1 : Int), pair.2) := rfl
    rw [shape, run]
    rfl
  · refine ⟨(Nat.ofDigitChars 10 front 0 : Int), ?_⟩
    have shape : year? ('+' :: (front ++ ['Z'])) =
        (number? (front ++ ['Z']).length (front ++ ['Z'])).map
          fun pair => ((pair.1 : Int), pair.2) := rfl
    rw [shape, run]
    rfl

/-- **Behind a sign the year takes all digits,** and no time is left. -/
theorem ofLongText?_of_signed {sign : Char} (signed : sign = '-' ∨ sign = '+')
    (filled : front ≠ []) (digits : ∀ c ∈ front, c.isDigit = true) :
    ofLongText? (sign :: (front ++ ['Z'])) = none := by
  obtain ⟨year, first⟩ := exists_year?_of_signed signed filled digits
  rw [ofLongText?, first]
  rfl

/-- A year before 0 or after 9999 is written with a sign. -/
theorem exists_longText_of_outside (outside : ¬ (0 ≤ time.year ∧ time.year ≤ 9999)) :
    ∃ sign front, time.longText = sign :: (front ++ ['Z']) ∧ (sign = '-' ∨ sign = '+') ∧
      front ≠ [] ∧ (∀ c ∈ front, c.isDigit = true) ∧ front.length ≤ 16 := by
  have short : time.year.natAbs < 10 ^ 6 := by
    have range := time.year_range
    omega
  have digits := Text.length_padded_le (by decide) (by decide : 4 ≤ 6) short
  refine ⟨if time.year < 0 then '-' else '+', padded 4 time.year.natAbs ++ time.partsText, ?_, ?_,
    ?_, fun c member => ?_, ?_⟩
  · rw [longText, yearText, if_neg outside, List.cons_append, List.cons_append]
  · split
    · exact .inl rfl
    · exact .inr rfl
  · obtain ⟨c, front, same, -⟩ := Text.exists_padded_eq_cons 4 time.year.natAbs
    rw [same]
    exact List.cons_ne_nil _ _
  · rcases List.mem_append.1 member with year | part
    · exact Text.isDigit_of_mem_padded year
    · exact isDigit_of_mem_partsText part
  · rw [List.length_append, length_partsText]
    omega

theorem ofLongText?_eq (time : DateTime) :
    ofLongText? time.longText =
      if 0 ≤ time.year ∧ time.year ≤ 9999 then some time else none := by
  split
  · next within => exact ofLongText?_longText within
  · next outside =>
    obtain ⟨sign, front, shape, signed, filled, digits, -⟩ := exists_longText_of_outside outside
    rw [shape]
    exact ofLongText?_of_signed signed filled digits

/-! ### Octets -/

/-- A sign and at most six digits for the year take no more than seven octets. -/
theorem length_ofText_longText_le (time : DateTime) :
    (Octets.ofText (String.ofList time.longText)).length ≤ 18 := by
  by_cases within : 0 ≤ time.year ∧ time.year ≤ 9999
  · rw [length_ofText_longText within]
    decide
  · obtain ⟨sign, front, shape, signed, -, digits, few⟩ := exists_longText_of_outside within
    rw [shape, length_ofText_of_isDigit_or, List.length_cons, List.length_append,
      List.length_singleton]
    · omega
    · intro c member
      rw [List.mem_cons, List.mem_append, List.mem_singleton] at member
      rcases member with rfl | digit | rfl
      · rcases signed with rfl | rfl <;> exact .inr (by decide)
      · exact .inl (digits c digit)
      · exact .inr (by decide)

end DateTime

namespace Element

variable {element : Element} {type : UniversalType} {data : Octets}

/-! ### Elements -/

/-- **Plain data that fit a word are read from the octets that are written for them.** -/
theorem exists_octets_of_leaf (plain : element.plainType? = some type)
    (written : element.toTlv = .ok (leafOf type data)) (fits : data.length < Length.bound) :
    ∃ octets, element.toOctets = .ok octets ∧ ofOctets octets = ofTlv (leafOf type data) := by
  obtain ⟨legible, primitive⟩ := legible_plainType plain
  have itself : (leafOf type data).SpellsItself :=
    Tlv.spellsItself_leaf_iff.2 ⟨legible, primitive, fits⟩
  refine ⟨(leafOf type data).write, Except.map_eq_ok_iff.2 ⟨_, written, rfl⟩, ?_⟩
  rw [ofOctets, Tlv.readAll_of_spelledAll (.single itself)]
  rfl

theorem readsBack_iff_of_written {octets : Octets} (written : element.toOctets = .ok octets) :
    element.ReadsBack ↔ ofOctets octets = .ok element := by
  rw [ReadsBack, written]
  rfl

/-- **The short form is always written and read,** as the time in the years that two digits stand
for. -/
theorem exists_octets_utcTime (time : DateTime) :
    ∃ octets, (utcTime time).toOctets = .ok octets ∧
      ofOctets octets = .ok (.utcTime time.windowed) := by
  have short : (Octets.ofText (String.ofList time.shortText)).length < Length.bound := by
    rw [time.length_ofText_shortText]
    decide
  have plain : (utcTime time).plainType? = some .utcTime := rfl
  obtain ⟨octets, written, read⟩ := exists_octets_of_leaf plain rfl short
  refine ⟨octets, written, read.trans ?_⟩
  have text := timeText_ofText .invalidUtcTime DateTime.ofShortText? time.shortText
  rw [DateTime.ofShortText?_eq_windowed] at text
  exact Except.map_eq_ok_iff.2 ⟨time.windowed, text, rfl⟩

/-- **The long form is always written, and read if the year has four digits.** -/
theorem exists_octets_generalizedTime (time : DateTime) :
    ∃ octets, (generalizedTime time).toOctets = .ok octets ∧
      ofOctets octets =
        if 0 ≤ time.year ∧ time.year ≤ 9999 then .ok (.generalizedTime time)
        else .error .invalidGeneralizedTime := by
  have short : (Octets.ofText (String.ofList time.longText)).length < Length.bound :=
    Nat.lt_of_le_of_lt time.length_ofText_longText_le (by decide)
  have plain : (generalizedTime time).plainType? = some .generalizedTime := rfl
  obtain ⟨octets, written, read⟩ := exists_octets_of_leaf plain rfl short
  refine ⟨octets, written, read.trans ?_⟩
  have text := timeText_ofText .invalidGeneralizedTime DateTime.ofLongText? time.longText
  rw [DateTime.ofLongText?_eq] at text
  have shape : ofTlv (leafOf .generalizedTime (.ofText (String.ofList time.longText))) =
      (timeText .invalidGeneralizedTime DateTime.ofLongText?
        (.ofText (String.ofList time.longText))).map .generalizedTime := rfl
  rw [shape, text]
  by_cases within : 0 ≤ time.year ∧ time.year ≤ 9999
  · rw [if_pos within, if_pos within]
    rfl
  · rw [if_neg within, if_neg within]
    rfl

/-- **What becomes of a time in octets.** Every time is written in either form. The short form is
read as the time in the years that two digits stand for, which is the time itself exactly for the
years from 1970 to 2069. The long form is read as the time itself for the years from 0 to 9999, and
refused for all others. -/
theorem times_readBack (time : DateTime) :
    (∃ octets, (utcTime time).toOctets = .ok octets ∧
      ofOctets octets = .ok (.utcTime time.windowed)) ∧
    ((utcTime time).ReadsBack ↔ 1970 ≤ time.year ∧ time.year ≤ 2069) ∧
    (∃ octets, (generalizedTime time).toOctets = .ok octets ∧
      ofOctets octets =
        if 0 ≤ time.year ∧ time.year ≤ 9999 then .ok (.generalizedTime time)
        else .error .invalidGeneralizedTime) ∧
    ((generalizedTime time).ReadsBack ↔ 0 ≤ time.year ∧ time.year ≤ 9999) := by
  refine ⟨exists_octets_utcTime time, ?_, exists_octets_generalizedTime time, ?_⟩
  · obtain ⟨octets, written, read⟩ := exists_octets_utcTime time
    rw [readsBack_iff_of_written written, read, Except.ok.injEq, utcTime.injEq,
      DateTime.windowed_eq_iff]
  · obtain ⟨octets, written, read⟩ := exists_octets_generalizedTime time
    rw [readsBack_iff_of_written written, read]
    split
    · next within => exact iff_of_true rfl within
    · next outside => exact iff_of_false nofun outside

/-- The first moment of 1950 is written without an error, and read as that of 2050. -/
theorem utcTime_moves_century :
    ∃ (time later : DateTime) (octets : Octets),
      DateTime.ofParts? 1950 1 1 0 0 0 = some time ∧
      DateTime.ofParts? 2050 1 1 0 0 0 = some later ∧
      octets = [0x17, 0x0d, 0x35, 0x30, 0x30, 0x31, 0x30, 0x31, 0x30, 0x30, 0x30, 0x30, 0x30, 0x30,
        0x5a] ∧
      (utcTime time).toOctets = .ok octets ∧
      ofOctets octets = .ok (.utcTime later) ∧
      utcTime later ≠ .utcTime time := by
  let time : DateTime :=
    ⟨1950, 1, 1, 0, 0, 0, by decide, by decide, by decide, by decide, by decide⟩
  obtain ⟨octets, written, read⟩ := exists_octets_utcTime time
  have spelling : (utcTime time).toOctets = .ok [0x17, 0x0d, 0x35, 0x30, 0x30, 0x31, 0x30, 0x31,
      0x30, 0x30, 0x30, 0x30, 0x30, 0x30, 0x5a] := by decide +kernel
  refine ⟨time, time.windowed, octets, rfl, rfl, ?_, written, read, ?_⟩
  · exact Except.ok.inj (written.symm.trans spelling)
  · rw [Ne, utcTime.injEq]
    decide

end Element

end X509
