/-
**Reading hexadecimal text.**

The lower-case digits that octets are written in read back as those octets. Reading is wider than
that: it drops blanks, colons and hyphens, and then takes two characters for each octet, of which
the first may be a plus sign.

* `readHex?_toHex` — what was written reads back.
-/

import X509.Octets
import X509.Text.Blank

namespace X509.Octets

/-- The value of a hexadecimal digit. -/
def hexDigit? (c : Char) : Option Nat :=
  if c.isDigit then some (c.toNat - '0'.toNat)
  else if 'a' ≤ c ∧ c ≤ 'f' then some (c.toNat - 'a'.toNat + 10)
  else if 'A' ≤ c ∧ c ≤ 'F' then some (c.toNat - 'A'.toNat + 10)
  else none

/-- The octet that two characters spell. -/
def readHexPair? (high low : Char) : Option UInt8 :=
  if high = '+' then
    (hexDigit? low).map UInt8.ofNat
  else
    match hexDigit? high, hexDigit? low with
    | some high, some low => some (UInt8.ofNat (high * 16 + low))
    | _, _ => none

/-- The octets that pairs of characters spell. -/
def readHexPairs? : List Char → Option Octets
  | [] => some []
  | [_] => none
  | high :: low :: rest =>
    match readHexPair? high low, readHexPairs? rest with
    | some octet, some octets => some (octet :: octets)
    | _, _ => none

/-- Whether a character may stand between the digits without meaning. -/
def isHexSeparator (c : Char) : Bool :=
  Text.isBlank c || c == ':' || c == '-'

/-- The octets of a hexadecimal text. -/
def readHex? (text : String) : Option Octets :=
  readHexPairs? (text.toList.filter fun c => !isHexSeparator c)

theorem readHexPair?_hexPair (octet : UInt8) :
    readHexPair? (Nat.digitChar (octet.toNat / 16)) (Nat.digitChar (octet.toNat % 16)) =
      some octet := by
  have table : ∀ value : Fin 256,
      readHexPair? (Nat.digitChar (value.val / 16)) (Nat.digitChar (value.val % 16)) =
        some (UInt8.ofNat value.val) := by decide +kernel
  have value := table ⟨octet.toNat, octet.toNat_lt⟩
  simpa using value

theorem not_isHexSeparator_digitChar (value : Fin 16) :
    isHexSeparator (Nat.digitChar value.val) = false := by
  revert value
  decide +kernel

/-- **Hexadecimal text reads back.** -/
theorem readHex?_toHex (octets : Octets) : readHex? (toHex octets) = some octets := by
  unfold readHex? toHex
  rw [String.toList_ofList, List.filter_eq_self.2]
  · induction octets with
    | nil => rfl
    | cons octet rest ih =>
      simp only [List.flatMap_cons, hexPair, List.cons_append, List.nil_append, readHexPairs?,
        readHexPair?_hexPair, ih]
  · intro c member
    obtain ⟨octet, -, mem⟩ := List.mem_flatMap.1 member
    have below : octet.toNat < 256 := octet.toNat_lt
    simp only [hexPair, List.mem_cons, List.not_mem_nil, or_false] at mem
    rcases mem with rfl | rfl
    · simp [not_isHexSeparator_digitChar ⟨octet.toNat / 16, by omega⟩]
    · simp [not_isHexSeparator_digitChar ⟨octet.toNat % 16, by omega⟩]

end X509.Octets
