/-
**Distribution points.**

A distribution point is named in full, or relative to the issuer of a list, or not at all; it may
cover only some reasons, and may have another issuer. It has a name or an issuer.

* `DistributionPoint.ofParts` — the only way to make one; an issuer without names counts as absent.
-/

import X509.GeneralName.Codec
import X509.Revocation.ReasonFlags

namespace X509

open ContentError (fromElement fromPkix)

/-- The name of a distribution point. -/
inductive DistributionPointName where
  | fullName (names : GeneralNames)
  | relativeName (relative : RelativeName)
deriving DecidableEq, Repr, Hashable

/-- A distribution point. -/
structure DistributionPoint where
  name : Option DistributionPointName
  reasons : Option ReasonFlags
  issuer : Option GeneralNames
deriving DecidableEq, Repr, Hashable

namespace DistributionPointName

/-- A full name, of which there must be one at least. -/
def full (names : GeneralNames) : Except ContentError DistributionPointName :=
  if names.names.isEmpty then
    .error (.emptyAlternative .distributionPointName)
  else
    .ok (.fullName names)

/-- The full name. -/
def full? : DistributionPointName → Option GeneralNames
  | .fullName names => some names
  | .relativeName _ => none

/-- The name relative to the issuer. -/
def relative? : DistributionPointName → Option RelativeName
  | .fullName _ => none
  | .relativeName relative => some relative

/-- The name, and which of the two it is. -/
def display : DistributionPointName → String
  | .fullName names => "Full Name: " ++ names.display
  | .relativeName relative => "Relative Name: " ++ relative.display

/-- Reads the name of a distribution point. -/
def ofElement (element : Element) : Except ContentError DistributionPointName :=
  match element with
  | .contextSpecific 0 true _ => do
    let members ← fromElement (element.untag .sequence)
    let names ← GeneralNames.ofElement .plain members
    full names
  | .contextSpecific 1 true _ => do
    let members ← fromElement (element.untag .set)
    let relative ← fromPkix (RelativeName.ofElement members)
    pure (.relativeName relative)
  | .contextSpecific 0 false _ =>
    .error (.expectedConstructedContextTag .distributionPointName 0)
  | .contextSpecific 1 false _ =>
    .error (.expectedConstructedContextTag .distributionPointName 1)
  | .contextSpecific slot _ _ => .error (.unexpectedContextTag .distributionPointName slot)
  | _ => .error (.expectedContextSpecific .distributionPointName)

/-- The element of the name of a distribution point. -/
def toElement : DistributionPointName → Except ContentError Element
  | .fullName names => do
    match ← names.toElement? with
    | some members => fromElement (Element.implicit 0 members)
    | none => throw (.emptyAlternative .distributionPointName)
  | .relativeName relative => do
    let members ← fromPkix relative.toElement
    fromElement (Element.implicit 1 members)

end DistributionPointName

namespace DistributionPoint

/-- The distribution point of these parts. An issuer without names counts as absent; a name or an
issuer must be left. -/
def ofParts (name : Option DistributionPointName) (reasons : Option ReasonFlags)
    (issuer : Option GeneralNames) : Except ContentError DistributionPoint :=
  let issuer := issuer.filter (!·.names.isEmpty)
  if name = none ∧ issuer = none then
    .error (.emptyAlternative .distributionPoint)
  else
    .ok { name, reasons, issuer }

/-- Reads the fields of a distribution point into what has been read already. Their slots must
ascend; `least` is the lowest slot that may come next. -/
def readFields (least : Nat) (point : DistributionPoint) :
    List Element → Except ContentError DistributionPoint
  | [] => .ok point
  | .contextSpecific slot constructed inner :: fields => do
    let element : Element := .contextSpecific slot constructed inner
    if slot.toNat < least then
      throw (.unexpectedContextTag .distributionPoint slot)
    else
      let point ← match slot with
        | 0 =>
          match element.explicitInner? with
          | some value => do
            let name ← DistributionPointName.ofElement value
            pure { point with name := some name }
          | none => throw (.invalidExplicitTag .distributionPoint 0)
        | 1 => do
          let bits ← fromElement (element.untag .bitString)
          let reasons ← ReasonFlags.ofElement bits
          pure { point with reasons := some reasons }
        | 2 => do
          let members ← fromElement (element.untag .sequence)
          let issuer ← GeneralNames.ofElement .plain members
          pure { point with issuer := some issuer }
        | slot => throw (.unexpectedContextTag .distributionPoint slot)
      readFields (slot.toNat + 1) point fields
  | _ :: _ => .error (.expectedContextSpecific .distributionPoint)

/-- Reads a distribution point. -/
def ofElement : Element → Except ContentError DistributionPoint
  | .sequence fields => do
    let point ← readFields 0 { name := none, reasons := none, issuer := none } fields
    ofParts point.name point.reasons point.issuer
  | _ => .error (.expectedSequence .distributionPoint)

/-- The element of the name field. -/
def nameField (name : DistributionPointName) : Except ContentError (List Element) := do
  let element ← name.toElement
  pure [Element.explicit 0 element]

/-- The element of the reasons field. -/
def reasonsField (reasons : ReasonFlags) : Except ContentError (List Element) := do
  let element ← fromElement (Element.implicit 1 reasons.toElement)
  pure [element]

/-- The element of the issuer field; without names there is none. -/
def issuerField (issuer : GeneralNames) : Except ContentError (List Element) := do
  match ← issuer.toElement? with
  | some members => do
    let element ← fromElement (Element.implicit 2 members)
    pure [element]
  | none => pure []

/-- The element of a field that may be absent. -/
def optionalField {α : Type} (field : α → Except ContentError (List Element)) :
    Option α → Except ContentError (List Element)
  | some value => field value
  | none => .ok []

/-- The element of a distribution point. -/
def toElement (point : DistributionPoint) : Except ContentError Element := do
  let name ← optionalField nameField point.name
  let reasons ← optionalField reasonsField point.reasons
  let issuer ← optionalField issuerField point.issuer
  pure (.sequence (name ++ reasons ++ issuer))

end DistributionPoint

end X509
