/-
**Canonical names.**

Two names are the same directory entry when their canonical texts agree. In the canonical text of
an attribute the type is its lower-case keyword, or its dotted text; the words of a text value are
set apart by single spaces, the special characters are escaped, and the whole is lower case. The
attributes of a level are sorted, those with a keyword first.

* `RelativeName.canonicalAttributes_perm` — sorting keeps the attributes.
* `Name.canonicalEq_self`, `Name.isWithin_nil` — every name agrees with itself, and lies below the
  root.
-/

import X509.Name.Basic
import X509.Text.Blank
import X509.Text.Lowercase

namespace X509

/-! ### Texts -/

/-- Whether a character is escaped wherever it stands. -/
def isSpecial (c : Char) : Bool :=
  [',', '+', '\x22', '\\', '<', '>', ';'].contains c

/-- A character, escaped if it is special. -/
def escapeSpecial (c : Char) : List Char :=
  if isSpecial c then ['\\', c] else [c]

/-- A text with its special characters escaped, and a number sign at its start. -/
def escapeText : List Char → List Char
  | [] => []
  | '#' :: rest => '\\' :: '#' :: rest.flatMap escapeSpecial
  | c :: rest => escapeSpecial c ++ rest.flatMap escapeSpecial

/-- The words of a text with single spaces between them, escaped and in lower case. -/
def canonicalText (text : List Char) : List Char :=
  Text.lowercase (escapeText (Text.join [' '] (Text.words text)))

/-! ### Attributes -/

namespace Attribute

/-- The type of an attribute in canonical form. -/
def canonicalKey (attr : Attribute) : List Char :=
  match attr.keyword? with
  | some keyword => keyword.toList.map Char.toLower
  | none => attr.type.toText.toList

/-- The value of an attribute in canonical form. -/
def canonicalValue (attr : Attribute) : List Char :=
  match attr.value with
  | .text string => canonicalText string.text.toList
  | .encoded octets => '#' :: octets.flatMap Octets.hexPair

/-- An attribute in canonical form. -/
def canonical (attr : Attribute) : List Char :=
  attr.canonicalKey ++ '=' :: attr.canonicalValue

/-- Whether the type of an attribute has a keyword. -/
def hasKeyword (attr : Attribute) : Bool :=
  attr.keyword?.isSome

/-- The order of the attributes of a level: those with a keyword come first, and among them and
among the others the canonical forms decide, character by character. -/
def canonicalCompare (one two : Attribute) : Ordering :=
  (compare two.hasKeyword one.hasKeyword).then
    (compare (String.ofList one.canonical) (String.ofList two.canonical))

end Attribute

/-! ### Names -/

namespace RelativeName

/-- The attributes in canonical order. Equal ones stay in the order they were in. -/
def canonicalAttributes (relative : RelativeName) : List Attribute :=
  relative.attributes.mergeSort fun one two => (one.canonicalCompare two).isLE

/-- A level in canonical form. -/
def canonical (relative : RelativeName) : List Char :=
  Text.join ['+'] (relative.canonicalAttributes.map Attribute.canonical)

theorem canonicalAttributes_perm (relative : RelativeName) :
    relative.canonicalAttributes.Perm relative.attributes :=
  List.mergeSort_perm _ _

end RelativeName

namespace Name

/-- A name in canonical form, the level farthest from the root first. -/
def canonical (name : Name) : List Char :=
  Text.join [','] (name.levels.reverse.map RelativeName.canonical)

/-- The levels of a name in canonical form, from the root down. -/
def canonicalLevels (name : Name) : List (List Char) :=
  name.levels.map RelativeName.canonical

/-- Whether two names have the same levels in canonical form. -/
def canonicalEq (one two : Name) : Bool :=
  one.canonicalLevels == two.canonicalLevels

/-- Whether the levels of `base` are the uppermost levels of the name in canonical form. -/
def isWithin (name base : Name) : Bool :=
  base.canonicalLevels.isPrefixOf name.canonicalLevels

theorem canonicalEq_iff {one two : Name} :
    one.canonicalEq two = true ↔ one.canonicalLevels = two.canonicalLevels := by
  simp [canonicalEq]

theorem isWithin_iff {name base : Name} :
    name.isWithin base = true ↔ base.canonicalLevels <+: name.canonicalLevels := by
  simp [isWithin]

theorem canonicalEq_self (name : Name) : name.canonicalEq name = true :=
  canonicalEq_iff.2 rfl

theorem isWithin_nil (name : Name) : name.isWithin ⟨[]⟩ = true :=
  isWithin_iff.2 List.nil_prefix

end Name

end X509
