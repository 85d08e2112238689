/-
**Sets of attributes that are reached by name.**

The content of an extension or of a certificate field is reached through attributes, each of which
has a name and a type of values. Names are looked up without regard to case. A change answers
whether it succeeded and gives the state after it in either case.

* `AttributeSet.setNamed_of_unknown` — a name that is not in the set changes nothing.
* `AttributeSet.after_get` — neither does a request that only reads.
-/

import X509.Constraint.Domain
import X509.GeneralName.Basic
import X509.Key.PublicKeyInfo
import X509.Key.SerialNumber
import X509.Revocation.Reason

namespace X509

/-- The value of an attribute of any type. -/
inductive FieldValue where
  | integer (value : Int)
  | reason (reason : Reason)
  | keyIdentifier (identifier : KeyIdentifier)
  | generalNames (names : GeneralNames)
  | algorithm (identifier : AlgorithmIdentifier)
  | serialNumber (serial : SerialNumber)
  | publicKey (info : PublicKeyInfo)

namespace FieldValue

/-- The name of the type of a value. -/
def typeName : FieldValue → String
  | .integer _ => "Integer"
  | .reason _ => "CrlReason"
  | .keyIdentifier _ => "KeyIdentifier"
  | .generalNames _ => "GeneralNames"
  | .algorithm _ => "AlgorithmIdentifier"
  | .serialNumber _ => "SerialNumber"
  | .publicKey _ => "SubjectPublicKeyInfo"

/-- The text of a value. -/
def display : FieldValue → String
  | .integer value => toString value
  | .reason cause => cause.display
  | .keyIdentifier identifier => identifier.display
  | .generalNames names => names.display
  | .algorithm identifier => identifier.display
  | .serialNumber serial => serial.display
  | .publicKey info => info.algorithm.display

end FieldValue

/-- A set of one attribute on states of type `State`. -/
structure AttributeSet (State : Type) where
  /-- What faults of the set name. -/
  subject : Subject
  /-- The name of the set in a certificate or list. -/
  name : String
  /-- The name of its attribute. -/
  attr : String
  /-- The value of the attribute, if it has one. -/
  get : State → Option FieldValue
  /-- Gives the attribute a value. -/
  set : State → FieldValue → Except ContentError Unit × State
  /-- Takes the value of the attribute away. -/
  delete : State → Except ContentError Unit × State
  /-- The text of the whole. -/
  display : State → String

namespace AttributeSet

variable {State : Type}

/-- The names of the attributes. -/
def attributeNames (attributes : AttributeSet State) : List String :=
  [attributes.attr]

/-- The values of the attributes. -/
def values (attributes : AttributeSet State) (state : State) : List (Option FieldValue) :=
  [attributes.get state]

/-- Whether a name is that of the attribute, case not counted. -/
def isNamed (attributes : AttributeSet State) (name : String) : Bool :=
  foldCase attributes.attr.toList == foldCase name.toList

/-- The fault of a name that is not in the set. -/
def unknown (attributes : AttributeSet State) (name : String) : ContentError :=
  .unknownAttribute attributes.subject name

/-- The value of the attribute with a name. -/
def getNamed (attributes : AttributeSet State) (name : String) (state : State) :
    Except ContentError (Option FieldValue) :=
  if attributes.isNamed name then .ok (attributes.get state) else .error (attributes.unknown name)

/-- Gives the attribute with a name a value. -/
def setNamed (attributes : AttributeSet State) (name : String) (value : FieldValue)
    (state : State) : Except ContentError Unit × State :=
  if attributes.isNamed name then
    attributes.set state value
  else
    (.error (attributes.unknown name), state)

/-- Takes the value of the attribute with a name away. -/
def deleteNamed (attributes : AttributeSet State) (name : String) (state : State) :
    Except ContentError Unit × State :=
  if attributes.isNamed name then
    attributes.delete state
  else
    (.error (attributes.unknown name), state)

/-! ### Requests -/

/-- A request to a set of attributes. -/
inductive Request where
  | get (name : String)
  | set (name : String) (value : FieldValue)
  | delete (name : String)

/-- What is answered to a request: the value of the attribute, if the request asks for it and there
is one. -/
def answer (attributes : AttributeSet State) (request : Request) (state : State) :
    Except ContentError (Option FieldValue) :=
  match request with
  | .get name => attributes.getNamed name state
  | .set name value => (attributes.setNamed name value state).1.map fun _ => none
  | .delete name => (attributes.deleteNamed name state).1.map fun _ => none

/-- The state after a request. -/
def after (attributes : AttributeSet State) (request : Request) (state : State) : State :=
  match request with
  | .get _ => state
  | .set name value => (attributes.setNamed name value state).2
  | .delete name => (attributes.deleteNamed name state).2

theorem after_get (attributes : AttributeSet State) (name : String) (state : State) :
    attributes.after (.get name) state = state := rfl

theorem setNamed_of_unknown {attributes : AttributeSet State} {name : String}
    (other : attributes.isNamed name = false) (value : FieldValue) (state : State) :
    attributes.setNamed name value state = (.error (attributes.unknown name), state) := by
  simp [setNamed, other]

theorem deleteNamed_of_unknown {attributes : AttributeSet State} {name : String}
    (other : attributes.isNamed name = false) (state : State) :
    attributes.deleteNamed name state = (.error (attributes.unknown name), state) := by
  simp [deleteNamed, other]

end AttributeSet

end X509
