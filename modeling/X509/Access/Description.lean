/-
**How to reach information about an issuer.**

An access description is a method and the place where that method finds what it looks for.
-/

import X509.GeneralName.Codec

namespace X509

/-- A method of access and a place. -/
structure AccessDescription where
  method : ObjectIdentifier
  location : GeneralName
deriving DecidableEq, Repr, Hashable, Inhabited

namespace AccessDescription

/-- Methods and their names. -/
def methodNames : List (List UInt64 × String) :=
  [([1, 3, 6, 1, 5, 5, 7, 48, 1], "ocsp"), ([1, 3, 6, 1, 5, 5, 7, 48, 2], "caIssuers"),
    ([1, 3, 6, 1, 5, 5, 7, 48, 3], "timeStamping"), ([1, 3, 6, 1, 5, 5, 7, 48, 5], "caRepository")]

/-- The method by its name or object identifier, and the place on a line of its own. -/
def display (access : AccessDescription) : String :=
  "accessMethod: " ++ (access.method.lookup? methodNames).getD access.method.toText ++
    "\n   accessLocation: " ++ access.location.display

/-- Reads an access description. -/
def ofElement : Element → Except ContentError AccessDescription
  | .sequence [.objectIdentifier method, location] => do
    let location ← GeneralName.ofElement .plain location
    pure { method, location }
  | .sequence [_, _] => .error (.expectedOid .accessDescription)
  | .sequence members => .error (.memberCount .accessDescription 2 members.length)
  | _ => .error (.expectedSequence .accessDescription)

/-- The element of an access description. -/
def toElement (access : AccessDescription) : Except ContentError Element := do
  let location ← access.location.toElement
  pure (.sequence [.objectIdentifier access.method, location])

end AccessDescription

end X509
