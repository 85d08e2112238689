/-
**Distinguished names.**

A name is a list of relative names, from the root of the directory down; a relative name is a list
of attributes; an attribute is a type and a value. Values of string types are kept as directory
strings, all others as the octets they are encoded in.
-/

import X509.Name.DirectoryString
import X509.Value.ObjectIdentifier

namespace X509

/-- The value of an attribute. -/
inductive AttributeValue where
  | text (string : DirectoryString)
  | encoded (octets : Octets)
deriving DecidableEq, Repr, Hashable, Inhabited

/-- An attribute: its type and its value. -/
structure Attribute where
  type : ObjectIdentifier
  value : AttributeValue
deriving DecidableEq, Repr, Hashable, Inhabited

/-- One level of a name: attributes, in the order they are written in. -/
structure RelativeName where
  attributes : List Attribute
deriving DecidableEq, Repr, Hashable, Inhabited

/-- A distinguished name, its levels from the root down. -/
structure Name where
  levels : List RelativeName
deriving DecidableEq, Repr, Hashable, Inhabited

/-- The relative name with these attributes, of which there must be one at least. -/
def RelativeName.ofAttributes (attributes : List Attribute) : Except PkixError RelativeName :=
  if attributes.isEmpty then .error .rdnEmpty else .ok ⟨attributes⟩

/-! ### Attribute types with a name -/

/-- Attribute types and their short names. -/
def Attribute.typeNames : List (List UInt64 × String) :=
  [([2, 5, 4, 3], "CN"), ([2, 5, 4, 4], "SN"), ([2, 5, 4, 5], "serialNumber"), ([2, 5, 4, 6], "C"),
    ([2, 5, 4, 7], "L"), ([2, 5, 4, 8], "ST"), ([2, 5, 4, 9], "STREET"), ([2, 5, 4, 10], "O"),
    ([2, 5, 4, 11], "OU"), ([2, 5, 4, 12], "title"), ([2, 5, 4, 42], "givenName"),
    ([2, 5, 4, 46], "dnQualifier"), ([0, 9, 2342, 19200300, 100, 1, 1], "UID"),
    ([0, 9, 2342, 19200300, 100, 1, 25], "DC"), ([1, 2, 840, 113549, 1, 9, 1], "emailAddress")]

/-- Attribute types and the keywords they have in canonical names. -/
def Attribute.keywords : List (List UInt64 × String) :=
  [([2, 5, 4, 3], "CN"), ([2, 5, 4, 6], "C"), ([2, 5, 4, 7], "L"), ([2, 5, 4, 8], "ST"),
    ([2, 5, 4, 10], "O"), ([2, 5, 4, 11], "OU"), ([2, 5, 4, 9], "STREET"),
    ([0, 9, 2342, 19200300, 100, 1, 25], "DC"), ([0, 9, 2342, 19200300, 100, 1, 1], "UID")]

/-- What a table keeps under an object identifier. -/
def ObjectIdentifier.lookup? (table : List (List UInt64 × String)) (oid : ObjectIdentifier) :
    Option String :=
  (table.find? (·.1 == oid.arcs)).map Prod.snd

/-- The short name of the type of an attribute. -/
def Attribute.typeName? (attr : Attribute) : Option String :=
  attr.type.lookup? typeNames

/-- The keyword of the type of an attribute in canonical names. -/
def Attribute.keyword? (attr : Attribute) : Option String :=
  attr.type.lookup? keywords

/-- The text of an attribute whose value is a directory string. -/
def Attribute.text? (attr : Attribute) : Option String :=
  match attr.value with
  | .text string => some string.text
  | .encoded _ => none

/-! ### Display -/

/-- A text as it is, and octets in hexadecimal after a number sign. -/
def AttributeValue.display : AttributeValue → String
  | .text string => string.text
  | .encoded octets => "#" ++ octets.toHex

/-- Type and value with an equals sign between them. -/
def Attribute.display (attr : Attribute) : String :=
  attr.typeName?.getD attr.type.toText ++ "=" ++ attr.value.display

/-- The attributes with plus signs between them. -/
def RelativeName.display (relative : RelativeName) : String :=
  String.intercalate "+" (relative.attributes.map Attribute.display)

/-- The levels with commas between them. -/
def Name.display (name : Name) : String :=
  String.intercalate ", " (name.levels.map RelativeName.display)

end X509
