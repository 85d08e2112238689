/-
**Subtrees and the constraints made of them.**

A subtree is a base and bounds on the depth below it. Name constraints are a list of permitted and a
list of excluded subtrees, at least one of them there and neither empty.

* `NameConstraints.ofLists` — drops empty lists, and refuses to be left with nothing.
-/

import X509.GeneralName.Codec

namespace X509

open ContentError (fromElement)

/-- A subtree: its base, and how far below it names may lie. -/
structure GeneralSubtree where
  base : GeneralName
  minimum : UInt32
  maximum : Option UInt32
deriving DecidableEq, Repr, Hashable, Inhabited

/-- A list of subtrees. -/
structure GeneralSubtrees where
  subtrees : List GeneralSubtree
deriving DecidableEq, Repr, Hashable, Inhabited

/-- The subtrees in which names must lie, and those in which they must not. -/
structure NameConstraints where
  permitted : Option GeneralSubtrees
  excluded : Option GeneralSubtrees
deriving DecidableEq, Repr, Hashable, Inhabited

namespace GeneralSubtree

/-- The subtree of everything below a base. -/
def ofBase (base : GeneralName) : GeneralSubtree :=
  { base, minimum := 0, maximum := none }

/-- The maximum, or -1 when there is none. -/
def maximumOrUnbounded (subtree : GeneralSubtree) : Int :=
  match subtree.maximum with
  | some maximum => maximum.toNat
  | none => -1

/-- The base, and the bounds unless they bound nothing. -/
def display (subtree : GeneralSubtree) : String :=
  let minimum := toString subtree.minimum.toNat
  subtree.base.display ++
    match subtree.maximum with
    | some maximum =>
      " (minimum " ++ minimum ++ ", maximum " ++ toString maximum.toNat ++ ")"
    | none => if subtree.minimum = 0 then "" else " (minimum " ++ minimum ++ ")"

/-- Reads a bound, which is an IMPLICIT integer. -/
def readBound (field : RangedField) (slot : UInt8) (element : Element) :
    Except ContentError UInt32 := do
  match element with
  | .contextSpecific _ false _ =>
    match ← fromElement (element.untag .integer) with
    | .integer value =>
      match Integer.below? UInt32.size value with
      | some bound => pure (UInt32.ofNat bound)
      | none => throw (.outOfRange .generalSubtree field)
    | _ => throw (.expectedInteger .generalSubtree)
  | _ => throw (.expectedPrimitiveContextTag .generalSubtree slot)

/-- Reads the bounds, given those read already. The minimum comes before the maximum, and neither
comes twice. -/
def readBounds (minimum maximum : Option UInt32) :
    List Element → Except ContentError (Option UInt32 × Option UInt32)
  | [] => .ok (minimum, maximum)
  | .contextSpecific slot constructed inner :: rest => do
    let element := .contextSpecific slot constructed inner
    if slot = 0 ∧ minimum = none ∧ maximum = none then
      let bound ← readBound .minimum 0 element
      readBounds (some bound) maximum rest
    else if slot = 1 ∧ maximum = none then
      let bound ← readBound .maximum 1 element
      readBounds minimum (some bound) rest
    else
      throw (.unexpectedContextTag .generalSubtree slot)
  | _ :: _ => .error (.expectedContextSpecific .generalSubtree)

/-- Reads a subtree. -/
def ofElement : Element → Except ContentError GeneralSubtree
  | .sequence [] => .error (.emptySequence .generalSubtree)
  | .sequence (base :: bounds) => do
    let base ← GeneralName.ofElement .subtree base
    let (minimum, maximum) ← readBounds none none bounds
    pure { base, minimum := minimum.getD 0, maximum }
  | _ => .error (.expectedSequence .generalSubtree)

/-- The element of a bound. -/
def boundElement (slot : UInt8) (bound : UInt32) : Except ContentError Element :=
  fromElement (Element.implicit slot (.integer bound.toNat))

/-- The element of a subtree. A minimum of zero is left out. -/
def toElement (subtree : GeneralSubtree) : Except ContentError Element := do
  let minimum := if subtree.minimum = 0 then [] else [(0, subtree.minimum)]
  let maximum := subtree.maximum.toList.map ((1, ·))
  let bounds ← (minimum ++ maximum).mapM fun (slot, bound) => boundElement slot bound
  let base ← subtree.base.toElement
  pure (.sequence (base :: bounds))

end GeneralSubtree

namespace GeneralSubtrees

/-- Reads a list of subtrees, which must not be empty. -/
def ofElement : Element → Except ContentError GeneralSubtrees
  | .sequence [] => .error (.emptySequence .nameConstraints)
  | .sequence members => (members.mapM GeneralSubtree.ofElement).map .mk
  | _ => .error (.expectedSequence .nameConstraints)

/-- The element of a list of subtrees, which must not be empty. -/
def toElement (list : GeneralSubtrees) : Except ContentError Element :=
  if list.subtrees.isEmpty then
    .error (.emptySequence .nameConstraints)
  else
    (list.subtrees.mapM GeneralSubtree.toElement).map .sequence

end GeneralSubtrees

namespace NameConstraints

/-- The constraints of these lists, of which empty ones count as absent. One must be left. -/
def ofLists (permitted excluded : Option GeneralSubtrees) : Except ContentError NameConstraints :=
  let permitted := permitted.filter (!·.subtrees.isEmpty)
  let excluded := excluded.filter (!·.subtrees.isEmpty)
  if permitted = none ∧ excluded = none then
    .error .nameConstraintsEmpty
  else
    .ok { permitted, excluded }

/-- Reads the lists, given those read already. The permitted ones come before the excluded ones, and
neither come twice. -/
def readLists (permitted excluded : Option GeneralSubtrees) :
    List Element → Except ContentError (Option GeneralSubtrees × Option GeneralSubtrees)
  | [] => .ok (permitted, excluded)
  | .contextSpecific slot true inner :: rest => do
    let list : Except ContentError GeneralSubtrees := do
      let members ← fromElement
        ((Element.contextSpecific slot true inner).untag .sequence)
      GeneralSubtrees.ofElement members
    if slot = 0 ∧ permitted = none ∧ excluded = none then
      let list ← list
      readLists (some list) excluded rest
    else if slot = 1 ∧ excluded = none then
      let list ← list
      readLists permitted (some list) rest
    else
      throw (.unexpectedContextTag .nameConstraints slot)
  | .contextSpecific slot false _ :: _ =>
    .error (.expectedConstructedContextTag .nameConstraints slot)
  | _ :: _ => .error (.expectedContextSpecific .nameConstraints)

/-- Reads name constraints. -/
def ofElement : Element → Except ContentError NameConstraints
  | .sequence members => do
    let (permitted, excluded) ← readLists none none members
    ofLists permitted excluded
  | _ => .error (.expectedSequence .nameConstraints)

/-- Reads the octets of name constraints, which must be one encoded value. -/
def ofOctets (octets : Octets) : Except ContentError NameConstraints := do
  match ← fromElement (Element.listOfOctets octets) with
  | [element] => ofElement element
  | elements => throw (.memberCount .nameConstraints 1 elements.length)

/-- The element of one of the lists. -/
def listElement (slot : UInt8) (list : GeneralSubtrees) : Except ContentError Element := do
  let members ← list.toElement
  fromElement (Element.implicit slot members)

/-- The element of name constraints. -/
def toElement (constraints : NameConstraints) : Except ContentError Element := do
  let lists := constraints.permitted.toList.map ((0, ·)) ++
    constraints.excluded.toList.map ((1, ·))
  let members ← lists.mapM fun (slot, list) => listElement slot list
  pure (.sequence members)

end NameConstraints

end X509
