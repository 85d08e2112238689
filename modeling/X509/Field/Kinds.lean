/-
**Certificate fields that are reached by name.**

The signature algorithm, the serial number and the public key of a certificate. A field holds a
value or none; without a value it has no element.

* `FieldProfile.set_of_put?` — setting a value of the right type always succeeds.
-/

import X509.Extension.AttributeSet

namespace X509

/-- A kind of field. -/
structure FieldProfile (Content : Type) where
  subject : Subject
  name : String
  /-- The name of the attribute. -/
  attr : String
  /-- The type that the attribute asks for, as faults name it. -/
  expected : String
  /-- The value of the attribute. -/
  get : Content → FieldValue
  /-- The content with this value of the attribute, if the value has the right type. -/
  put? : FieldValue → Option Content
  /-- Reads the content. -/
  ofElement : Element → Except PkixError Content
  /-- The element of the content. -/
  toElement : Content → Element
  /-- The text of a field. -/
  display : Option Content → String

namespace FieldProfile

variable {Content : Type}

/-- Reads a field. -/
def read (profile : FieldProfile Content) (element : Element) :
    Except ContentError (Option Content) :=
  (ContentError.fromPkix (profile.ofElement element)).map some

/-- The element of a field, which must have a value. -/
def write (profile : FieldProfile Content) : Option Content → Except ContentError Element
  | some content => .ok (profile.toElement content)
  | none => .error (.missingValue profile.subject)

/-- The attribute of a field of this kind. -/
def attributes (profile : FieldProfile Content) : AttributeSet (Option Content) where
  subject := profile.subject
  name := profile.name
  attr := profile.attr
  get content := content.map profile.get
  set content value :=
    match profile.put? value with
    | some content => (.ok (), some content)
    | none => (.error (.attributeType profile.subject profile.attr profile.expected), content)
  delete _ := (.ok (), none)
  display content := profile.display content

theorem set_of_put? {profile : FieldProfile Content} {value : FieldValue} {content : Content}
    (typed : profile.put? value = some content) (before : Option Content) :
    profile.attributes.set before value = (.ok (), some content) := by
  simp [attributes, typed]

/-- The profile of signature algorithms. -/
def algorithmId : FieldProfile AlgorithmIdentifier where
  subject := .algorithmId
  name := "algorithmID"
  attr := "algorithm"
  expected := "AlgorithmIdentifier"
  get := .algorithm
  put?
    | .algorithm identifier => some identifier
    | _ => none
  ofElement := AlgorithmIdentifier.ofElement
  toElement := AlgorithmIdentifier.toElement
  display content :=
    "Signature Algorithm: " ++ (content.map AlgorithmIdentifier.display).getD "<empty>"

/-- The profile of serial numbers. -/
def serialNumber : FieldProfile SerialNumber where
  subject := .serialNumber
  name := "serialNumber"
  attr := "number"
  expected := "SerialNumber"
  get := .serialNumber
  put?
    | .serialNumber serial => some serial
    | _ => none
  ofElement := SerialNumber.ofElement
  toElement := SerialNumber.toElement
  display content := "Serial Number: " ++ (content.map SerialNumber.display).getD "<empty>"

/-- The profile of public keys. -/
def publicKey : FieldProfile PublicKeyInfo where
  subject := .publicKey
  name := "key"
  attr := "key"
  expected := "SubjectPublicKeyInfo"
  get := .publicKey
  put?
    | .publicKey info => some info
    | _ => none
  ofElement := PublicKeyInfo.ofElement
  toElement := PublicKeyInfo.toElement
  display
    | some info =>
      "Public Key Algorithm: " ++ info.algorithm.display ++ ", " ++ toString info.key.length ++
        " bits"
    | none => "Public Key: <empty>"

end FieldProfile

end X509
