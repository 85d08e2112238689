/-
**Extensions with typed content.**

A kind of extension is described by a profile: its object identifier, how its content is read and
encoded, and how its one attribute maps to that content. An extension of that kind is the critical
flag, the content, and a cache for the encoding of the content.

A change assigns the new content first and then refreshes the cache. So when the new content cannot
be encoded the change fails, and the content stays changed.
-/

import X509.Element.Reading
import X509.Element.Writing
import X509.Extension.AttributeSet
import X509.Extension.Cache
import X509.Extension.Envelope

namespace X509

/-- An extension with content of a type. -/
structure TypedExtension (Content : Type) where
  critical : Bool
  content : Content
  cache : ValueCache
deriving DecidableEq, Repr, Inhabited

/-- A kind of extension. -/
structure ExtensionProfile (Content : Type) where
  oid : ObjectIdentifier
  subject : Subject
  name : String
  /-- The name of the attribute. -/
  attr : String
  /-- The type that the attribute asks for, as faults name it. -/
  expected : String
  /-- Whether an extension that is newly made is critical. -/
  critical : Bool
  /-- Whether an extension that was read is critical, by the flag it came with. -/
  keptCritical : Bool → Bool
  /-- Reads the octets of the content. -/
  read : Octets → Except ContentError Content
  /-- The octets of the content, if it has any. -/
  encode : Content → Except ContentError (Option Octets)
  /-- The value of the attribute. -/
  get : Content → Option FieldValue
  /-- The content with this value of the attribute, if the value has the right type. -/
  put? : FieldValue → Option Content
  /-- The content without a value. -/
  cleared : Content
  /-- The text of an extension. -/
  display : Bool → Content → String

/-- Reads octets that are one encoded value. -/
def readValue (subject : Subject) (octets : Octets) : Except ContentError Element := do
  match ← ContentError.fromElement (Element.listOfOctets octets) with
  | [element] => pure element
  | elements => throw (.memberCount subject 1 elements.length)

/-- The octets of an element. -/
def writeValue (element : Element) : Except ContentError Octets :=
  ContentError.fromElement element.toOctets

namespace ExtensionProfile

variable {Content : Type}

/-! ### Making and reading -/

/-- A newly made extension. -/
def make (profile : ExtensionProfile Content) (content : Content) : TypedExtension Content :=
  { critical := profile.critical, content, cache := .empty }

/-- Reads the octets of the content of an extension. -/
def parse (profile : ExtensionProfile Content) (critical : Bool) (octets : Octets) :
    Except ContentError (TypedExtension Content) := do
  let content ← profile.read octets
  pure { critical := profile.keptCritical critical, content, cache := .empty }

/-- Reads an envelope, which must have the object identifier of the kind. -/
def ofEnvelope (profile : ExtensionProfile Content) (envelope : Envelope) :
    Except ContentError (TypedExtension Content) :=
  if envelope.oid = profile.oid then
    profile.parse envelope.critical envelope.value
  else
    .error (.oidMismatch profile.oid.toText envelope.oid.toText)

/-! ### Octets -/

/-- The octets of the content, from the cache if it holds them. -/
def value (profile : ExtensionProfile Content) (extension : TypedExtension Content) :
    Except ContentError Octets × TypedExtension Content :=
  let used := extension.cache.ask fun _ => profile.encode extension.content
  (used.result, { extension with cache := used.cache })

/-- The envelope of an extension. -/
def toEnvelope (profile : ExtensionProfile Content) (extension : TypedExtension Content) :
    Except ContentError Envelope × TypedExtension Content :=
  let (octets, after) := profile.value extension
  (octets.map fun value => { oid := profile.oid, critical := extension.critical, value }, after)

/-! ### Attributes -/

/-- The extension with other content, the cache refreshed. -/
def assign (profile : ExtensionProfile Content) (extension : TypedExtension Content)
    (content : Content) : Except ContentError Unit × TypedExtension Content :=
  let used := ValueCache.refresh fun _ => profile.encode content
  (used.result, { extension with content, cache := used.cache })

/-- The attribute of an extension of this kind. -/
def attributes (profile : ExtensionProfile Content) : AttributeSet (TypedExtension Content) where
  subject := profile.subject
  name := profile.name
  attr := profile.attr
  get extension := profile.get extension.content
  set extension value :=
    match profile.put? value with
    | some content => profile.assign extension content
    | none => (.error (.attributeType profile.subject profile.attr profile.expected), extension)
  delete extension := profile.assign extension profile.cleared
  display extension := profile.display extension.critical extension.content

theorem critical_value (profile : ExtensionProfile Content) (extension : TypedExtension Content) :
    (profile.value extension).2.critical = extension.critical := rfl

theorem content_value (profile : ExtensionProfile Content) (extension : TypedExtension Content) :
    (profile.value extension).2.content = extension.content := rfl

theorem critical_assign (profile : ExtensionProfile Content) (extension : TypedExtension Content)
    (content : Content) : (profile.assign extension content).2.critical = extension.critical := rfl

/-- **The content changes even when it cannot be encoded.** -/
theorem content_assign (profile : ExtensionProfile Content) (extension : TypedExtension Content)
    (content : Content) : (profile.assign extension content).2.content = content := rfl

end ExtensionProfile

end X509
