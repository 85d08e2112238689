/-
**Texts in two octets a character.**

A character of the basic multilingual plane is written as the two big-endian octets of its code
point. Characters beyond the plane have no form, and the code points of surrogates stand for no
character.

* `BmpText.ofOctets_toOctets` — a text that has a form reads back from it.
-/

import X509.Octets

namespace X509.BmpText

/-- Why octets are no such text, or a text has no such form. -/
inductive Fault where
  | oddLength (length : Nat)
  | invalidCodePoint (position : Nat) (code : UInt16)
  | beyondPlane
deriving DecidableEq, Repr, Inhabited

/-- Four upper-case hexadecimal digits. -/
def fourDigits (code : UInt16) : String :=
  String.ofList ([code.toNat / 4096, code.toNat / 256 % 16, code.toNat / 16 % 16,
    code.toNat % 16].map fun digit => (Nat.digitChar digit).toUpper)

/-- The wording of a fault. -/
def Fault.message : Fault → String
  | .oddLength length => "BMPString: odd byte length " ++ toString length
  | .invalidCodePoint position code =>
    "BMPString: invalid code point at position " ++ toString position ++ ": 0x" ++ fourDigits code
  | .beyondPlane => "BMPString: contains character outside BMP (requires surrogate pair)"

/-- The characters that pairs of octets spell, the first of which has this position. -/
def charsAt (position : Nat) : Octets → Except Fault (List Char)
  | high :: low :: rest =>
    let code := high.toNat * 256 + low.toNat
    if code.isValidChar then
      (charsAt (position + 1) rest).map (Char.ofNat code :: ·)
    else
      .error (.invalidCodePoint position (UInt16.ofNat code))
  | _ => .ok []

/-- The text that octets spell. -/
def ofOctets (octets : Octets) : Except Fault String :=
  if octets.length % 2 = 1 then
    .error (.oddLength octets.length)
  else
    (charsAt 0 octets).map String.ofList

/-- The octets of some characters. -/
def charsOctets : List Char → Except Fault Octets
  | [] => .ok []
  | c :: rest =>
    if c.toNat < 0x10000 then
      (charsOctets rest).map
        ([UInt8.ofNat (c.toNat / 256), UInt8.ofNat (c.toNat % 256)] ++ ·)
    else
      .error .beyondPlane

/-- The octets of a text. -/
def toOctets (text : String) : Except Fault Octets :=
  charsOctets text.toList

theorem charsAt_charsOctets {text : List Char} {octets : Octets} (position : Nat)
    (written : charsOctets text = .ok octets) :
    charsAt position octets = .ok text ∧ octets.length % 2 = 0 := by
  induction text generalizing octets position with
  | nil =>
    obtain rfl := Except.ok.inj written
    exact ⟨rfl, rfl⟩
  | cons c rest ih =>
    rw [charsOctets] at written
    split at written
    · next inside =>
      cases tail : charsOctets rest with
      | error fault => simp [tail, Except.map] at written
      | ok others =>
        simp only [tail, Except.map, Except.ok.injEq] at written
        subst written
        obtain ⟨reads, even⟩ := ih (position + 1) tail
        have high : (UInt8.ofNat (c.toNat / 256)).toNat = c.toNat / 256 := by
          simp only [UInt8.toNat_ofNat', Nat.reducePow]
          omega
        have low : (UInt8.ofNat (c.toNat % 256)).toNat = c.toNat % 256 := by
          simp only [UInt8.toNat_ofNat', Nat.reducePow]
          omega
        have code : c.toNat / 256 * 256 + c.toNat % 256 = c.toNat := by omega
        have valid : c.toNat.isValidChar := c.valid
        refine ⟨?_, by simpa [List.length_cons] using by omega⟩
        simp only [List.cons_append, List.nil_append, charsAt, high, low, code, if_pos valid,
          reads, Except.map, Char.ofNat_toNat]
    · cases written

/-- **A text reads back from its form.** -/
theorem ofOctets_toOctets {text : String} {octets : Octets}
    (written : toOctets text = .ok octets) : ofOctets octets = .ok text := by
  obtain ⟨reads, even⟩ := charsAt_charsOctets 0 written
  simp [ofOctets, even, reads, Except.map]

end X509.BmpText
