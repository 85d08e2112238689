/-
**Algorithm identifiers.**

An algorithm identifier names an algorithm and may carry parameters, which are NULL or any other
element.

* `AlgorithmIdentifier.ofElement_toElement` — what is written reads back, unless the parameters are
  a NULL in the guise of another element.
-/

import X509.Element.Reading
import X509.Element.Writing
import X509.Name.Basic
import X509.PkixError

namespace X509

/-- The parameters of an algorithm. -/
inductive AlgorithmParameters where
  | null
  | element (element : Element)
deriving Inhabited

/-- An algorithm and its parameters, if there are any. -/
structure AlgorithmIdentifier where
  algorithm : ObjectIdentifier
  parameters : Option AlgorithmParameters
deriving Inhabited

namespace AlgorithmIdentifier

/-- Algorithms and their names. -/
def names : List (List UInt64 × String) :=
  [([1, 2, 840, 113549, 1, 1, 1], "rsaEncryption"),
    ([1, 2, 840, 113549, 1, 1, 11], "sha256WithRSAEncryption"),
    ([1, 2, 840, 10045, 2, 1], "id-ecPublicKey"),
    ([1, 2, 840, 10045, 4, 3, 2], "ecdsa-with-SHA256"), ([1, 3, 101, 112], "Ed25519")]

/-- The name of the algorithm. -/
def name? (identifier : AlgorithmIdentifier) : Option String :=
  identifier.algorithm.lookup? names

/-- The name of the algorithm, or its object identifier. -/
def display (identifier : AlgorithmIdentifier) : String :=
  identifier.name?.getD identifier.algorithm.toText

/-- Reads an algorithm identifier. -/
def ofElement : Element → Except PkixError AlgorithmIdentifier
  | .sequence [.objectIdentifier algorithm] => .ok { algorithm, parameters := none }
  | .sequence [.objectIdentifier algorithm, .null] => .ok { algorithm, parameters := some .null }
  | .sequence [.objectIdentifier algorithm, other] =>
    .ok { algorithm, parameters := some (.element other) }
  | .sequence [_] => .error .algorithmExpectedOid
  | .sequence [_, _] => .error .algorithmExpectedOid
  | .sequence members => .error (.algorithmMemberCount members.length)
  | _ => .error .algorithmExpectedSequence

/-- The element of an algorithm identifier. -/
def toElement (identifier : AlgorithmIdentifier) : Element :=
  .sequence (.objectIdentifier identifier.algorithm ::
    match identifier.parameters with
    | none => []
    | some .null => [.null]
    | some (.element element) => [element])

theorem ofElement_toElement {identifier : AlgorithmIdentifier}
    (plain : identifier.parameters ≠ some (.element .null)) :
    ofElement identifier.toElement = .ok identifier := by
  obtain ⟨algorithm, parameters⟩ := identifier
  match parameters with
  | none => rfl
  | some .null => rfl
  | some (.element element) =>
    cases element with
    | null => exact absurd rfl plain
    | _ => rfl

end AlgorithmIdentifier

end X509
