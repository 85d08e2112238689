/-
**Strings of octets.**

Encodings are lists of octets. This module holds what every layer above needs of them: cutting off
a given number of octets, reading and writing unsigned big-endian numbers, and the two hexadecimal
forms in which octets are shown.

* `Octets.split?_eq_some_iff` — cutting succeeds exactly when enough octets are there, and the two
  parts give back the whole.
* `Octets.toNat_ofNat` — the shortest big-endian form of a number reads back as that number.
-/

namespace X509

/-- A string of octets, first octet first. -/
abbrev Octets := List UInt8

namespace Octets

/-! ### Cutting -/

/-- The first `count` octets and the octets after them, if there are that many. -/
def split? (count : Nat) (octets : Octets) : Option (Octets × Octets) :=
  let front := octets.take count
  if front.length = count then some (front, octets.drop count) else none

theorem split?_eq_some_iff {count : Nat} {octets front rest : Octets} :
    split? count octets = some (front, rest) ↔ front.length = count ∧ octets = front ++ rest := by
  constructor
  · intro cut
    simp only [split?] at cut
    split at cut
    · next enough =>
      obtain ⟨rfl, rfl⟩ := Prod.mk.inj (Option.some.inj cut)
      exact ⟨enough, (List.take_append_drop count octets).symm⟩
    · cases cut
  · rintro ⟨rfl, rfl⟩
    simp [split?]

theorem split?_append (front rest : Octets) :
    split? front.length (front ++ rest) = some (front, rest) :=
  split?_eq_some_iff.2 ⟨rfl, rfl⟩

theorem split?_eq_none_iff {count : Nat} {octets : Octets} :
    split? count octets = none ↔ octets.length < count := by
  simp only [split?, List.length_take, ite_eq_right_iff, reduceCtorEq, imp_false]
  omega

/-! ### Unsigned numbers -/

/-- The unsigned number that the octets spell, most significant octet first. -/
def toNat (octets : Octets) : Nat :=
  octets.foldl (fun value octet => value * 256 + octet.toNat) 0

/-- The base-256 digits of a number, least significant first; none for zero. -/
def digits (value : Nat) : Octets :=
  if value = 0 then [] else UInt8.ofNat (value % 256) :: digits (value / 256)

/-- The shortest big-endian form of a number; empty for zero. -/
def ofNat (value : Nat) : Octets :=
  (digits value).reverse

/-- The big-endian form of a number in exactly `count` octets, modulo `256 ^ count`. -/
def ofNatFixed (count value : Nat) : Octets :=
  (List.range count).reverse.map fun place => UInt8.ofNat (value >>> (8 * place) % 256)

theorem toNat_nil : toNat [] = 0 := rfl

theorem toNat_concat (octets : Octets) (last : UInt8) :
    toNat (octets ++ [last]) = toNat octets * 256 + last.toNat := by
  simp [toNat]

theorem digits_zero : digits 0 = [] := by
  rw [digits, if_pos rfl]

theorem digits_of_pos {value : Nat} (positive : 0 < value) :
    digits value = UInt8.ofNat (value % 256) :: digits (value / 256) := by
  rw [digits, if_neg (by omega)]

/-- **The shortest form reads back.** -/
theorem toNat_ofNat (value : Nat) : toNat (ofNat value) = value := by
  induction value using Nat.strongRecOn with
  | ind value ih =>
    rcases Nat.eq_zero_or_pos value with rfl | positive
    · simp [ofNat, digits_zero, toNat_nil]
    · have smaller := ih (value / 256) (by omega)
      unfold ofNat at smaller ⊢
      rw [digits_of_pos positive, List.reverse_cons, toNat_concat, smaller]
      have low : (UInt8.ofNat (value % 256)).toNat = value % 256 := by
        simp [UInt8.toNat_ofNat']
      omega

/-! ### Hexadecimal text -/

/-- The two lower-case hexadecimal digits of an octet. -/
def hexPair (octet : UInt8) : List Char :=
  [Nat.digitChar (octet.toNat / 16), Nat.digitChar (octet.toNat % 16)]

/-- The octets in lower-case hexadecimal, without separators. -/
def toHex (octets : Octets) : String :=
  String.ofList (octets.flatMap hexPair)

/-- The octets in lower-case hexadecimal, with colons between them. -/
def toColonHex (octets : Octets) : String :=
  String.intercalate ":" (octets.map fun octet => String.ofList (hexPair octet))

/-- The octets in upper-case hexadecimal, with colons between them. -/
def toUpperColonHex (octets : Octets) : String :=
  String.intercalate ":" (octets.map fun octet => String.ofList ((hexPair octet).map Char.toUpper))

/-! ### Text -/

/-- The UTF-8 encoding of a text. -/
def ofText (text : String) : Octets :=
  text.toUTF8.data.toList

/-- The text whose UTF-8 encoding the octets are, if they are one. -/
def toText? (octets : Octets) : Option String :=
  String.fromUTF8? ⟨octets.toArray⟩

/-- Whether every octet is an ASCII code. -/
def isAscii (octets : Octets) : Bool :=
  octets.all (· < 0x80)

theorem toText?_ofText (text : String) : toText? (ofText text) = some text := by
  have same : (⟨(ofText text).toArray⟩ : ByteArray) = text.toUTF8 := by simp [ofText]
  rw [toText?, same, String.fromUTF8?]
  exact dif_pos text.isValidUTF8

theorem ofText_of_toText? {octets : Octets} {text : String} (read : toText? octets = some text) :
    ofText text = octets := by
  simp only [toText?, String.fromUTF8?] at read
  split at read
  · obtain rfl := Option.some.inj read
    simp [ofText, String.fromUTF8]
  · cases read

end Octets

end X509
