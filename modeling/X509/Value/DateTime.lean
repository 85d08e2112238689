/-
**Calendar times.**

A time is a day of the proleptic Gregorian calendar with hour, minute and second. Second 60 is a
leap second, which any minute may have. Years reach from -262143 to 262142.

Two written forms are read back: `YYMMDDhhmmssZ`, with two digits for the year, and
`YYYYMMDDhhmmssZ`. Reading is lenient: blanks may stand before every number, a number may have fewer
digits than its place, and a four-digit year may instead be a signed number of any length.
-/

import X509.Text.Blank
import X509.Text.Decimal

namespace X509

/-- Whether a year has a 29th of February. -/
def isLeapYear (year : Int) : Bool :=
  year % 4 == 0 && (year % 100 != 0 || year % 400 == 0)

/-- The number of days of a month, and zero for a month that does not exist. -/
def daysInMonth (year : Int) (month : Nat) : Nat :=
  match month with
  | 1 | 3 | 5 | 7 | 8 | 10 | 12 => 31
  | 4 | 6 | 9 | 11 => 30
  | 2 => if isLeapYear year then 29 else 28
  | _ => 0

/-- A time on the calendar. -/
structure DateTime where
  year : Int
  month : Nat
  day : Nat
  hour : Nat
  minute : Nat
  second : Nat
  year_range : -262143 ≤ year ∧ year ≤ 262142
  day_range : 1 ≤ day ∧ day ≤ daysInMonth year month
  hour_lt : hour < 24
  minute_lt : minute < 60
  second_le : second ≤ 60
deriving DecidableEq, Repr

namespace DateTime

/-- The time with these parts, if the calendar has it. -/
def ofParts? (year : Int) (month day hour minute second : Nat) : Option DateTime :=
  if valid : (-262143 ≤ year ∧ year ≤ 262142) ∧ (1 ≤ day ∧ day ≤ daysInMonth year month) ∧
      hour < 24 ∧ minute < 60 ∧ second ≤ 60 then
    some ⟨year, month, day, hour, minute, second, valid.1, valid.2.1, valid.2.2.1, valid.2.2.2.1,
      valid.2.2.2.2⟩
  else
    none

/-! ### Writing -/

/-- A year: four digits from 0 to 9999, and otherwise a sign and at least four digits. -/
def yearText (year : Int) : List Char :=
  if 0 ≤ year ∧ year ≤ 9999 then
    Text.padded 4 year.toNat
  else
    (if year < 0 then '-' else '+') :: Text.padded 4 year.natAbs

/-- Month, day, hour, minute and second in two digits each. -/
def partsText (time : DateTime) : List Char :=
  [time.month, time.day, time.hour, time.minute, time.second].flatMap (Text.padded 2)

/-- The form with a two-digit year, which drops the century. -/
def shortText (time : DateTime) : List Char :=
  Text.padded 2 (time.year % 100).toNat ++ time.partsText ++ ['Z']

/-- The form with the whole year. -/
def longText (time : DateTime) : List Char :=
  yearText time.year ++ time.partsText ++ ['Z']

/-- Day and time of day for display, with `between` standing between them. -/
def display (between : Char) (time : DateTime) : String :=
  let two := Text.padded 2
  String.ofList (yearText time.year ++ ['-'] ++ two time.month ++ ['-'] ++ two time.day ++
    [between] ++ two time.hour ++ [':'] ++ two time.minute ++ [':'] ++ two time.second)

/-! ### Reading -/

/-- Up to `places` digits, after the value of those before them. -/
def takeDigits (value : Nat) : (places : Nat) → List Char → Nat × List Char
  | 0, text => (value, text)
  | _ + 1, [] => (value, [])
  | places + 1, c :: rest =>
    if c.isDigit then takeDigits (value * 10 + (c.toNat - 48)) places rest else (value, c :: rest)

/-- A number of one to `places` digits at the start of the text, and what follows it. -/
def number? (places : Nat) (text : List Char) : Option (Nat × List Char) :=
  match text with
  | c :: _ => if c.isDigit then some (takeDigits 0 places text) else none
  | [] => none

/-- A number of one or two digits after any blanks, and what follows it. -/
def part? (text : List Char) : Option (Nat × List Char) :=
  number? 2 (Text.trimStart text)

/-- A year after any blanks: a signed number of any length, or up to four digits. -/
def year? (text : List Char) : Option (Int × List Char) :=
  match Text.trimStart text with
  | '-' :: rest => (number? rest.length rest).map fun (value, rest) => (-(value : Int), rest)
  | '+' :: rest => (number? rest.length rest).map fun (value, rest) => ((value : Int), rest)
  | text => (number? 4 text).map fun (value, rest) => ((value : Int), rest)

/-- The year that two digits stand for: in 1970 to 2069. -/
def yearOfTwoDigits (value : Nat) : Int :=
  if value < 70 then 2000 + value else 1900 + value

/-- A time whose year has been read already. -/
def afterYear? (year : Int) (text : List Char) : Option DateTime := do
  let (month, text) ← part? text
  let (day, text) ← part? text
  let (hour, text) ← part? text
  let (minute, text) ← part? text
  let (second, text) ← part? text
  if text = ['Z'] then ofParts? year month day hour minute second else none

/-- Reads the form with a two-digit year. -/
def ofShortText? (text : List Char) : Option DateTime := do
  let (year, text) ← part? text
  afterYear? (yearOfTwoDigits year) text

/-- Reads the form with the whole year. -/
def ofLongText? (text : List Char) : Option DateTime := do
  let (year, text) ← year? text
  afterYear? year text

end DateTime

end X509
