/-
**JSON text.**

JSON values are written in ASCII, without blanks. In a string the quote and the backslash follow a
backslash, and every character that is no visible ASCII character is written as `\uXXXX`, with two
such escapes for a character beyond the basic plane.

* `Json.ascii_quoted` — the text of a string is ASCII, whatever the string holds.
-/

import X509.Json.Basic
import X509.Text.Decimal

namespace X509.Json

/-- Four lower-case hexadecimal digits. -/
def fourDigits (unit : Nat) : List Char :=
  [unit / 4096 % 16, unit / 256 % 16, unit / 16 % 16, unit % 16].map Nat.digitChar

/-- Sixteen bits as an escape. -/
def escape (unit : Nat) : List Char :=
  '\\' :: 'u' :: fourDigits unit

/-- A character as it stands in a string. -/
def stringChar (c : Char) : List Char :=
  let code := c.toNat
  if c = '\x22' ∨ c = '\\' then ['\\', c]
  else if 0x20 ≤ code ∧ code < 0x7f then [c]
  else if code < 0x10000 then escape code
  else
    let offset := code - 0x10000
    escape (0xd800 + offset / 0x400) ++ escape (0xdc00 + offset % 0x400)

/-- The text of a string. -/
def quoted (text : String) : String :=
  String.ofList ('\x22' :: (text.toList.flatMap stringChar ++ ['\x22']))

/-- The text of a number; a fraction is written with an exponent. -/
def numberText (mantissa : Int) (places : Nat) : String :=
  if places = 0 then toString mantissa else toString mantissa ++ "e-" ++ toString places

mutual

/-- The text of a value. -/
def toText : Json → String
  | .null => "null"
  | .bool value => if value then "true" else "false"
  | .number mantissa places => numberText mantissa places
  | .string text => quoted text
  | .array items => "[" ++ String.intercalate "," (textEach items) ++ "]"
  | .object members => "\x7b" ++ String.intercalate "," (textMembers members) ++ "\x7d"

/-- The texts of some values. -/
def textEach : List Json → List String
  | [] => []
  | item :: items => toText item :: textEach items

/-- The texts of some members. -/
def textMembers : List (String × Json) → List String
  | [] => []
  | (name, value) :: members => (quoted name ++ ":" ++ toText value) :: textMembers members

end

theorem ascii_escape (unit : Nat) : ∀ c ∈ escape unit, c.toNat < 0x7f := by
  have table : ∀ digit : Fin 16, (Nat.digitChar digit.val).toNat < 0x7f := by decide
  have digit (value : Nat) : (Nat.digitChar (value % 16)).toNat < 0x7f :=
    table ⟨value % 16, Nat.mod_lt _ (by decide)⟩
  intro c member
  simp only [escape, fourDigits, List.map_cons, List.map_nil, List.mem_cons, List.not_mem_nil,
    or_false] at member
  rcases member with rfl | rfl | rfl | rfl | rfl | rfl
  · decide
  · decide
  all_goals exact digit _

theorem ascii_stringChar (c : Char) : ∀ written ∈ stringChar c, written.toNat < 0x7f := by
  intro written member
  simp only [stringChar] at member
  split at member
  · next special =>
    rcases List.mem_cons.1 member with rfl | last
    · decide
    · obtain rfl := List.mem_singleton.1 last
      rcases special with rfl | rfl <;> decide
  · split at member
    · next visible =>
      obtain rfl := List.mem_singleton.1 member
      exact visible.2
    · split at member
      · exact ascii_escape _ _ member
      · rcases List.mem_append.1 member with high | low
        · exact ascii_escape _ _ high
        · exact ascii_escape _ _ low

/-- **The text of a string is ASCII.** -/
theorem ascii_quoted (text : String) : ∀ c ∈ (quoted text).toList, c.toNat < 0x7f := by
  intro c member
  simp only [quoted, String.toList_ofList, List.mem_cons, List.mem_append, List.mem_flatMap,
    List.not_mem_nil, or_false] at member
  rcases member with rfl | ⟨source, -, written⟩ | rfl
  · decide
  · exact ascii_stringChar source c written
  · decide

end X509.Json
