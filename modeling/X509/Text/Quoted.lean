/-
**Quoted texts in messages.**

A text is shown between double quotes. The quote, the backslash and the usual controls are written
with a backslash; a hidden or ignorable character, or one that would combine with the character
before it, is written by its code point.
-/

import X509.Text.VisibleRanges

namespace X509.Text

/-- Whether a character may be shown as it is. -/
def isVisible (c : Char) : Bool :=
  if c.toNat < 0x80 then
    0x20 ≤ c.toNat && c.toNat != 0x7f
  else
    (!extendingRanges.has c || soundMarkRanges.has c) &&
      !hiddenRanges.has c && !ignorableRanges.has c

/-- A character as it stands between double quotes. -/
def quoteChar (c : Char) : List Char :=
  match c with
  | '\x00' => ['\\', '0']
  | '\t' => ['\\', 't']
  | '\r' => ['\\', 'r']
  | '\n' => ['\\', 'n']
  | '\\' => ['\\', '\\']
  | '"' => ['\\', '"']
  | c =>
    if isVisible c then [c] else ['\\', 'u', '\x7b'] ++ Nat.toDigits 16 c.toNat ++ ['\x7d']

/-- A text between double quotes. -/
def quoted (text : String) : String :=
  String.ofList (['"'] ++ text.toList.flatMap quoteChar ++ ['"'])

end X509.Text
