/-
**Directory strings.**

A directory string is a text together with the string type it is written as, so that what was read
is written back the same.

* `DirectoryString.ofElement_toElement` — the element of a directory string reads back as it.
-/

import X509.Element.Basic
import X509.PkixError

namespace X509

/-- The string types a directory string may be written as. -/
inductive StringKind where
  | utf8
  | printable
  | ia5
  | bmp
deriving DecidableEq, Repr, Hashable, Inhabited

/-- The string types with their names. -/
def StringKind.named : List (StringKind × String) :=
  [(.utf8, "Utf8"), (.printable, "Printable"), (.ia5, "Ia5"), (.bmp, "Bmp")]

/-- A text and the string type it is written as. -/
structure DirectoryString where
  kind : StringKind
  text : String
deriving DecidableEq, Repr, Hashable, Inhabited

namespace DirectoryString

/-- Whether a character is in the repertoire of printable strings. -/
def isPrintableChar (c : Char) : Bool :=
  c.isAlphanum || " '()+,-./:=?".toList.contains c

/-- The text as a UTF-8 string. -/
def utf8 (text : String) : DirectoryString :=
  { kind := .utf8, text }

/-- The text as a printable string, if all its characters are in the repertoire. -/
def printable (text : String) : Except PkixError DirectoryString :=
  if text.toList.all isPrintableChar then
    .ok { kind := .printable, text }
  else
    .error (.directoryStringNotPrintable text)

/-- Reads a string element. The raw octets that an IMPLICIT tag leaves count as UTF-8. -/
def ofElement : Element → Except PkixError DirectoryString
  | .printableString text => .ok { kind := .printable, text }
  | .utf8String text => .ok { kind := .utf8, text }
  | .bmpString text => .ok { kind := .bmp, text }
  | .ia5String text => .ok { kind := .ia5, text }
  | .octetString octets =>
    match octets.toText? with
    | some text => .ok { kind := .utf8, text }
    | none => .error .directoryStringInvalidUtf8
  | _ => .error .directoryStringExpectedString

/-- The element of a directory string. -/
def toElement (string : DirectoryString) : Element :=
  match string.kind with
  | .utf8 => .utf8String string.text
  | .printable => .printableString string.text
  | .ia5 => .ia5String string.text
  | .bmp => .bmpString string.text

theorem ofElement_toElement (string : DirectoryString) :
    ofElement string.toElement = .ok string := by
  obtain ⟨kind, text⟩ := string
  cases kind <;> rfl

end DirectoryString

end X509
