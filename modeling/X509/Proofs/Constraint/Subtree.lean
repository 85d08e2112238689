/-
**Name constraints as elements.**

A subtree is a base and then its bounds, the minimum before the maximum; constraints are the
permitted subtrees before the excluded ones. Whatever may be absent has a tag of its own. What is
written leaves out a minimum of zero, and what is read may have it.

* `GeneralSubtree.IsSubtree`, `NameConstraints.IsConstraints` — subtrees and constraints, and the
  elements that stand for them.
* `GeneralSubtree.ofElement_eq_ok_iff`, `NameConstraints.ofElement_eq_ok_iff` — which elements are
  read.
* `NameConstraints.exists_writes` — the element that is written.
* `NameConstraints.ofElement_toElement_isConstraints` — both ways, by octets.
-/

import X509.Constraint.Subtree
import X509.Proofs.Element.Fields
import X509.Proofs.GeneralName.Codec

namespace X509

open ContentError (fromElement_eq_ok_iff)

/-! ### Subtrees -/

theorem Integer.below?_eq_some_iff {limit : Nat} {value : Int} {number : Nat} :
    below? limit value = some number ↔ value = number ∧ number < limit := by
  cases value with
  | ofNat natural =>
    rw [below?]
    constructor
    · intro found
      split at found
      · next small =>
        obtain rfl := Option.some.inj found
        exact ⟨rfl, small⟩
      · cases found
    · rintro ⟨same, small⟩
      obtain rfl := Int.ofNat.inj same
      exact if_pos small
  | negSucc natural =>
    constructor
    · nofun
    · rintro ⟨same, -⟩
      omega

namespace GeneralSubtree

variable {element inner : Element} {slot tag : UInt8} {constructed : Bool} {field : RangedField}
  {bound : UInt32} {minimum maximum : Option UInt32} {subtree : GeneralSubtree}

/-- A bound and its element: the octets of an integer under a primitive tag. -/
inductive IsBound (slot : UInt8) : Element → UInt32 → Prop where
  | intro {data : Octets} {bound : UInt32} (filled : data ≠ [])
      (spells : Integer.ofOctets data = bound.toNat) :
      IsBound slot (.contextSpecific slot false (.octetString data)) bound

/-- **A subtree and its element:** the base, then the minimum and then the maximum. The minimum that
the element has, if it has one, is spelled out; it is zero otherwise. -/
inductive IsSubtree (minimum : Option UInt32) : Element → GeneralSubtree → Prop where
  | intro {base : Element} {name : GeneralName} {lowest highest : List Element}
      {maximum : Option UInt32} (named : GeneralName.ofElement .subtree base = .ok name)
      (least : List.Forall₂ (IsBound 0) lowest minimum.toList)
      (most : List.Forall₂ (IsBound 1) highest maximum.toList) :
      IsSubtree minimum (.sequence (base :: (lowest ++ highest)))
        { base := name, minimum := minimum.getD 0, maximum }

/-- A subtree and any of its elements. -/
def Reads (element : Element) (subtree : GeneralSubtree) : Prop :=
  ∃ minimum, IsSubtree minimum element subtree

/-- The minimum that is written: none if it is zero. -/
def written? (subtree : GeneralSubtree) : Option UInt32 :=
  if subtree.minimum = 0 then none else some subtree.minimum

/-- A subtree and an element of it without a minimum of zero. -/
def Writes (element : Element) (subtree : GeneralSubtree) : Prop :=
  IsSubtree subtree.written? element subtree

theorem readBound_eq_ok_iff (wasRead : (Element.contextSpecific tag constructed inner).WasRead) :
    readBound field slot (.contextSpecific tag constructed inner) = .ok bound ↔
      IsBound tag (.contextSpecific tag constructed inner) bound := by
  obtain ⟨rfl, members, rfl⟩ | ⟨rfl, data, rfl⟩ := wasRead.contextSpecific_cases
  · exact ⟨nofun, nofun⟩
  rw [readBound, Element.untag_octets .integer nofun rfl, Except.bind_eq_ok_iff]
  constructor
  · rintro ⟨value, untagged, rest⟩
    rw [fromElement_eq_ok_iff, Element.ofData] at untagged
    split at untagged
    · cases untagged
    · next filled =>
      cases untagged
      dsimp only at rest
      split at rest
      · next number found =>
        cases rest
        obtain ⟨same, small⟩ := Integer.below?_eq_some_iff.1 found
        refine .intro (fun none => filled (List.isEmpty_iff.2 none)) ?_
        rw [same, UInt32.toNat_ofNat_of_lt' small]
      · cases rest
  · rintro ⟨filled, spells⟩
    have some : ¬ data.isEmpty = true := fun none => filled (List.isEmpty_iff.1 none)
    refine ⟨.integer bound.toNat, ?_, ?_⟩
    · rw [fromElement_eq_ok_iff, Element.ofData, if_neg some, spells]
    · have found := Integer.below?_eq_some_iff.2 ⟨rfl, bound.toNat_lt⟩
      simp only [found, UInt32.ofNat_toNat]
      rfl

theorem isBound_iff (field : RangedField)
    (wasRead : (Element.contextSpecific tag constructed inner).WasRead) :
    IsBound slot (.contextSpecific tag constructed inner) bound ↔
      tag = slot ∧ readBound field slot (.contextSpecific tag constructed inner) = .ok bound := by
  rw [readBound_eq_ok_iff wasRead]
  constructor
  · rintro ⟨filled, spells⟩
    exact ⟨rfl, filled, spells⟩
  · rintro ⟨rfl, bounds⟩
    exact bounds

/-- Reading bounds is reading two fields. -/
theorem readsTwo_readBounds : Element.ReadsTwo IsBound readBounds where
  nil first second := rfl
  cons_iff {first second element rest found} wasRead := by
    cases element with
    | contextSpecific tag constructed inner =>
      refine Element.slots_eq_ok_iff.trans (or_congr ?_ ?_)
      · exact exists_congr fun value => and_congr_left' (isBound_iff .minimum wasRead).symm
      · exact exists_congr fun value => and_congr_left' (isBound_iff .maximum wasRead).symm
    | _ =>
      constructor
      · nofun
      · rintro (⟨_, ⟨⟩, _⟩ | ⟨_, ⟨⟩, _⟩)

/-- **A subtree is read from its elements,** as far as elements are read themselves. -/
theorem ofElement_eq_ok_iff (wasRead : element.WasRead) :
    ofElement element = .ok subtree ↔ Reads element subtree := by
  constructor
  · intro read
    unfold ofElement at read
    split at read
    · cases read
    · next base bounds =>
      obtain ⟨name, named, rest⟩ := Except.bind_eq_ok_iff.1 read
      obtain ⟨⟨minimum, maximum⟩, found, same⟩ := Except.bind_eq_ok_iff.1 rest
      cases same
      have within := List.forall_mem_cons.1 (wasRead.of_isNode .sequence)
      obtain ⟨lowest, highest, rfl, least, most⟩ :=
        (readsTwo_readBounds.read_eq_ok_iff within.2).1 found
      exact ⟨minimum, .intro named least most⟩
    · cases read
  · rintro ⟨minimum, ⟨named, least, most⟩⟩
    have within := List.forall_mem_cons.1 (wasRead.of_isNode .sequence)
    have found := (readsTwo_readBounds.read_eq_ok_iff within.2).2 ⟨_, _, rfl, least, most⟩
    refine Except.bind_eq_ok_iff.2 ⟨_, named, ?_⟩
    exact Except.bind_eq_ok_iff.2 ⟨_, found, rfl⟩

/-! ### Subtrees that are written -/

/-- A bound is written as the fewest octets of an integer. -/
theorem boundElement_eq (slot : UInt8) (bound : UInt32) :
    boundElement slot bound =
      .ok (.contextSpecific slot false (.octetString (Integer.toOctets bound.toNat))) :=
  fromElement_eq_ok_iff.2 (Element.implicit_of_leaf rfl rfl slot)

theorem exists_bound (low : slot < Tag.numberMask) (bound : UInt32) :
    ∃ field, boundElement slot bound = .ok field ∧ IsBound slot field bound ∧
      ∃ tlv, Element.Coded field tlv := by
  have legible := Tag.legible_contextSpecific low false
  exact ⟨_, boundElement_eq slot bound,
    .intro (Integer.toOctets_ne_nil _) (Integer.ofOctets_toOctets bound.toNat),
    _, .of_leaf rfl rfl legible rfl⟩

theorem getD_written? (subtree : GeneralSubtree) : subtree.written?.getD 0 = subtree.minimum := by
  unfold written?
  split
  · next zero => exact zero.symm
  · rfl

/-- **A subtree is written as an element of it without a minimum of zero,** if its base is a name
that stands for itself. -/
theorem exists_writes (valid : subtree.base.WireValid .subtree) :
    ∃ element, subtree.toElement = .ok element ∧ Writes element subtree ∧
      ∃ tlv, Element.Coded element tlv := by
  obtain ⟨base, written, named, code⟩ := valid.exists_coded
  obtain ⟨lowest, least, low, lowCodes⟩ :=
    Element.exists_fields fun bound (_ : bound ∈ subtree.written?.toList) =>
      exists_bound (by decide : 0 < Tag.numberMask) bound
  obtain ⟨highest, most, high, highCodes⟩ :=
    Element.exists_fields fun bound (_ : bound ∈ subtree.maximum.toList) =>
      exists_bound (by decide : 1 < Tag.numberMask) bound
  refine ⟨.sequence (base :: (lowest ++ highest)), ?writes, ?shape, ?code⟩
  case writes =>
    have pairs : (if subtree.minimum = 0 then [] else [((0 : UInt8), subtree.minimum)]) =
        subtree.written?.toList.map ((0, ·)) := by
      unfold written?
      split <;> rfl
    rw [toElement, pairs]
    refine Except.bind_eq_ok_iff.2 ⟨lowest ++ highest, Except.mapM_eq_ok_iff.2 ?_, ?_⟩
    · exact List.rel_append (List.forall₂_map_left_iff.2 least) (List.forall₂_map_left_iff.2 most)
    · exact Except.bind_eq_ok_iff.2 ⟨base, written, rfl⟩
  case shape =>
    have shape := IsSubtree.intro named low high
    rwa [getD_written?] at shape
  case code =>
    refine Element.IsNode.sequence.exists_coded ?_ ⟨by decide, by decide⟩
    exact List.forall_mem_cons.2 ⟨code, List.forall_mem_append.2 ⟨lowCodes, highCodes⟩⟩

end GeneralSubtree

/-! ### Constraints -/

namespace NameConstraints

variable {element : Element} {slot tag : UInt8} {constraints : NameConstraints}
  {IsSubtree Other : Element → GeneralSubtree → Prop} {fields members : List Element}
  {list : GeneralSubtrees} {permitted excluded list? : Option GeneralSubtrees}

/-- A list of subtrees and its element: the elements of the subtrees, of which there is one at
least, under a constructed tag. -/
inductive IsList (IsSubtree : Element → GeneralSubtree → Prop) (slot : UInt8) :
    Element → GeneralSubtrees → Prop where
  | intro {members : List Element} {list : GeneralSubtrees} (filled : list.subtrees ≠ [])
      (each : List.Forall₂ IsSubtree members list.subtrees) :
      IsList IsSubtree slot (.contextSpecific slot true (.sequence members)) list

/-- **Constraints and their element:** the permitted subtrees, the excluded subtrees, or both. -/
inductive IsConstraints (IsSubtree : Element → GeneralSubtree → Prop) :
    Element → NameConstraints → Prop where
  | intro {front back : List Element} {constraints : NameConstraints}
      (permits : List.Forall₂ (IsList IsSubtree 0) front constraints.permitted.toList)
      (excludes : List.Forall₂ (IsList IsSubtree 1) back constraints.excluded.toList)
      (some : constraints.permitted ≠ none ∨ constraints.excluded ≠ none) :
      IsConstraints IsSubtree (.sequence (front ++ back)) constraints

theorem IsList.imp (imply : ∀ element subtree, IsSubtree element subtree → Other element subtree)
    (isList : IsList IsSubtree slot element list) : IsList Other slot element list := by
  obtain ⟨filled, each⟩ := isList
  exact .intro filled (each.imp imply)

theorem IsConstraints.imp
    (imply : ∀ element subtree, IsSubtree element subtree → Other element subtree)
    (isConstraints : IsConstraints IsSubtree element constraints) :
    IsConstraints Other element constraints := by
  obtain ⟨permits, excludes, some⟩ := isConstraints
  exact .intro (permits.imp fun _ _ => .imp imply) (excludes.imp fun _ _ => .imp imply) some

/-! ### Constraints that are made -/

/-- The lists of constraints that were made are those they were made from, without empty ones. -/
theorem ofLists_eq_ok_iff :
    ofLists permitted excluded = .ok constraints ↔
      (constraints.permitted ≠ none ∨ constraints.excluded ≠ none) ∧
        constraints = { permitted := permitted.filter (!·.subtrees.isEmpty),
                        excluded := excluded.filter (!·.subtrees.isEmpty) } := by
  unfold ofLists
  dsimp only
  constructor
  · intro made
    split at made
    · cases made
    · next some =>
      cases made
      exact ⟨not_and_or.1 some, rfl⟩
  · rintro ⟨some, rfl⟩
    exact if_neg (not_and_or.2 some)

/-! ### Constraints that are read -/

/-- Lists that have elements are not empty, and so none of them is dropped. -/
theorem filter_of_isList (isList : List.Forall₂ (IsList IsSubtree slot) fields list?.toList) :
    list?.filter (!·.subtrees.isEmpty) = list? := by
  refine isList.filter_eq_self fun _ list field => ?_
  obtain ⟨filled, -⟩ := field
  rw [List.isEmpty_eq_false_iff.2 filled]
  rfl

theorem subtrees_ofElement_eq_ok_iff (wasRead : ∀ member ∈ members, member.WasRead) :
    GeneralSubtrees.ofElement (.sequence members) = .ok list ↔
      list.subtrees ≠ [] ∧ List.Forall₂ GeneralSubtree.Reads members list.subtrees := by
  have subtrees : List.Forall₂ (fun member subtree => GeneralSubtree.ofElement member = .ok subtree)
      members list.subtrees ↔ List.Forall₂ GeneralSubtree.Reads members list.subtrees := by
    constructor
    · intro each
      exact ((List.forall₂_and_left _ _).2 ⟨wasRead, each⟩).imp fun _ _ both =>
        (GeneralSubtree.ofElement_eq_ok_iff both.1).1 both.2
    · intro each
      exact ((List.forall₂_and_left _ _).2 ⟨wasRead, each⟩).imp fun _ _ both =>
        (GeneralSubtree.ofElement_eq_ok_iff both.1).2 both.2
  cases members with
  | nil =>
    constructor
    · nofun
    · rintro ⟨filled, each⟩
      exact absurd (List.forall₂_nil_left_iff.1 each) filled
  | cons member members =>
    refine Except.map_eq_ok_iff.trans ?_
    rw [← subtrees]
    constructor
    · rintro ⟨subtrees, each, rfl⟩
      rw [Except.mapM_eq_ok_iff] at each
      refine ⟨?_, each⟩
      rintro rfl
      cases each
    · rintro ⟨-, each⟩
      exact ⟨list.subtrees, Except.mapM_eq_ok_iff.2 each, rfl⟩

theorem isList_iff {inner : Element}
    (wasRead : (Element.contextSpecific tag true inner).WasRead) :
    IsList GeneralSubtree.Reads slot (.contextSpecific tag true inner) list ↔
      tag = slot ∧ (do
        let members ← ContentError.fromElement
          ((Element.contextSpecific tag true inner).untag .sequence)
        GeneralSubtrees.ofElement members) = .ok list := by
  obtain ⟨-, members, rfl⟩ | ⟨⟨⟩, -⟩ := wasRead.contextSpecific_cases
  have within := wasRead.of_isNode .contextSpecific
  refine Iff.trans ?_ (and_congr_right' (subtrees_ofElement_eq_ok_iff within).symm)
  constructor
  · rintro ⟨filled, each⟩
    exact ⟨rfl, filled, each⟩
  · rintro ⟨rfl, filled, each⟩
    exact .intro filled each

/-- Reading lists of subtrees is reading two fields. -/
theorem readsTwo_readLists :
    Element.ReadsTwo (IsList GeneralSubtree.Reads) readLists where
  nil first second := rfl
  cons_iff {first second element rest found} wasRead := by
    cases element with
    | contextSpecific tag constructed inner =>
      cases constructed with
      | true =>
        refine Element.slots_eq_ok_iff.trans (or_congr ?_ ?_)
        · exact exists_congr fun value => and_congr_left' (isList_iff wasRead).symm
        · exact exists_congr fun value => and_congr_left' (isList_iff wasRead).symm
      | false =>
        constructor
        · nofun
        · rintro (⟨_, ⟨⟩, _⟩ | ⟨_, ⟨⟩, _⟩)
    | _ =>
      constructor
      · nofun
      · rintro (⟨_, ⟨⟩, _⟩ | ⟨_, ⟨⟩, _⟩)

/-- **Constraints are read from their elements,** as far as elements are read themselves. -/
theorem ofElement_eq_ok_iff (wasRead : element.WasRead) :
    ofElement element = .ok constraints ↔
      IsConstraints GeneralSubtree.Reads element constraints := by
  constructor
  · intro read
    unfold ofElement at read
    split at read
    · next members =>
      obtain ⟨⟨permitted, excluded⟩, found, made⟩ := Except.bind_eq_ok_iff.1 read
      obtain ⟨front, back, rfl, permits, excludes⟩ :=
        (readsTwo_readLists.read_eq_ok_iff (wasRead.of_isNode .sequence)).1 found
      obtain ⟨some, rfl⟩ := ofLists_eq_ok_iff.1 made
      dsimp only at some
      rw [filter_of_isList permits, filter_of_isList excludes] at some ⊢
      exact .intro permits excludes some
    · cases read
  · rintro ⟨permits, excludes, some⟩
    have found := (readsTwo_readLists.read_eq_ok_iff (wasRead.of_isNode .sequence)).2
      ⟨_, _, rfl, permits, excludes⟩
    refine Except.bind_eq_ok_iff.2 ⟨_, found, ofLists_eq_ok_iff.2 ⟨some, ?_⟩⟩
    rw [filter_of_isList permits, filter_of_isList excludes]

/-! ### Constraints that are written -/

theorem exists_list (low : slot < Tag.numberMask) (filled : list.subtrees ≠ [])
    (valid : ∀ subtree ∈ list.subtrees, subtree.base.WireValid .subtree) :
    ∃ field, listElement slot list = .ok field ∧ IsList GeneralSubtree.Writes slot field list ∧
      ∃ tlv, Element.Coded field tlv := by
  obtain ⟨members, writes, each, codes⟩ :=
    Element.exists_fields fun subtree inside => GeneralSubtree.exists_writes (valid subtree inside)
  refine ⟨.contextSpecific slot true (.sequence members), ?writes, .intro filled each, ?code⟩
  case writes =>
    refine Except.bind_eq_ok_iff.2 ⟨.sequence members, ?_, rfl⟩
    rw [GeneralSubtrees.toElement, List.isEmpty_eq_false_iff.2 filled, if_neg Bool.false_ne_true]
    exact Except.map_eq_ok_iff.2 ⟨members, Except.mapM_eq_ok_iff.2 writes, rfl⟩
  case code =>
    exact Element.IsNode.contextSpecific.exists_coded codes (Tag.legible_contextSpecific low true)

/-- The lists of constraints that were made are some of those they were made from, and not empty. -/
theorem mem_of_ofLists (made : ofLists permitted excluded = .ok constraints) :
    (∀ list ∈ constraints.permitted.toList, list.subtrees ≠ [] ∧ list ∈ permitted.toList) ∧
      ∀ list ∈ constraints.excluded.toList, list.subtrees ≠ [] ∧ list ∈ excluded.toList := by
  obtain ⟨-, rfl⟩ := ofLists_eq_ok_iff.1 made
  have kept {list? : Option GeneralSubtrees} :
      ∀ list ∈ (list?.filter (!·.subtrees.isEmpty)).toList,
        list.subtrees ≠ [] ∧ list ∈ list?.toList := by
    intro list inside
    rw [Option.mem_toList, Option.filter_eq_some_iff] at inside
    obtain ⟨found, filled⟩ := inside
    exact ⟨by simpa using filled, Option.mem_toList.2 found⟩
  exact ⟨kept, kept⟩

/-- **Constraints that were made are written as an element of them without minimums of zero,** if
their bases are names that stand for themselves. -/
theorem exists_writes (made : ofLists permitted excluded = .ok constraints)
    (valid : ∀ list ∈ permitted.toList ++ excluded.toList, ∀ subtree ∈ list.subtrees,
      subtree.base.WireValid .subtree) :
    ∃ element, constraints.toElement = .ok element ∧
      IsConstraints GeneralSubtree.Writes element constraints ∧
        ∃ tlv, Element.Coded element tlv := by
  obtain ⟨some, -⟩ := ofLists_eq_ok_iff.1 made
  obtain ⟨inPermitted, inExcluded⟩ := mem_of_ofLists made
  obtain ⟨validPermitted, validExcluded⟩ := List.forall_mem_append.1 valid
  obtain ⟨front, permits, first, frontCodes⟩ := Element.exists_fields fun list inside => by
    obtain ⟨filled, here⟩ := inPermitted list inside
    exact exists_list (by decide : 0 < Tag.numberMask) filled (validPermitted list here)
  obtain ⟨back, excludes, second, backCodes⟩ := Element.exists_fields fun list inside => by
    obtain ⟨filled, here⟩ := inExcluded list inside
    exact exists_list (by decide : 1 < Tag.numberMask) filled (validExcluded list here)
  refine ⟨.sequence (front ++ back), ?writes, .intro first second some, ?code⟩
  case writes =>
    refine Except.bind_eq_ok_iff.2 ⟨front ++ back, Except.mapM_eq_ok_iff.2 ?_, rfl⟩
    exact List.rel_append (List.forall₂_map_left_iff.2 permits)
      (List.forall₂_map_left_iff.2 excludes)
  case code =>
    refine Element.IsNode.sequence.exists_coded ?_ ⟨by decide, by decide⟩
    exact List.forall_mem_append.2 ⟨frontCodes, backCodes⟩

/-! ### Both ways -/

/-- **Constraints are written, read back from their octets, and read from nothing else.** Those that
were made from lists of any length, whose bases are names that stand for themselves, are written as
an element of them in which a minimum of zero and an absent maximum have no field; as long as the
octets fit a word, they are read as that element and as those constraints. And an element that
octets are read as is read as constraints exactly when it is one of their elements. -/
theorem ofElement_toElement_isConstraints :
    (∀ permitted excluded constraints, ofLists permitted excluded = .ok constraints →
      (∀ list ∈ permitted.toList ++ excluded.toList, ∀ subtree ∈ list.subtrees,
        subtree.base.WireValid .subtree) →
      ∃ element octets, constraints.toElement = .ok element ∧
        IsConstraints GeneralSubtree.Writes element constraints ∧
        element.toOctets = .ok octets ∧ ofElement element = .ok constraints ∧
        (octets.length < Length.bound →
          Element.ofOctets octets = .ok element ∧ ofOctets octets = .ok constraints)) ∧
    (∀ octets element, Element.ofOctets octets = .ok element → ∀ constraints,
      ofElement element = .ok constraints ↔
        IsConstraints GeneralSubtree.Reads element constraints) := by
  constructor
  · intro permitted excluded constraints made valid
    obtain ⟨element, writes, shape, tlv, coded⟩ := exists_writes made valid
    obtain ⟨written, back⟩ := coded.exists_octets
    have read : ofElement element = .ok constraints := by
      refine (ofElement_eq_ok_iff ⟨tlv, coded.read⟩).2 (shape.imp ?_)
      exact fun _ _ writes => ⟨_, writes⟩
    refine ⟨element, tlv.write, writes, shape, written, read, fun fits => ⟨back fits, ?_⟩⟩
    have single := fromElement_eq_ok_iff.2 (coded.listOfOctets fits)
    exact Except.bind_eq_ok_iff.2 ⟨[element], single, read⟩
  · intro octets element read constraints
    exact ofElement_eq_ok_iff (Element.wasRead_of_ofOctets read)

/-- A host and what lies one step below it at most. -/
def hostSubtree : GeneralSubtree :=
  { base := .ipAddress (.address (.v4 0x0a000001#32)), minimum := 0, maximum := some 1 }

/-- The octets of constraints that permit the host. -/
def hostOctets : Octets :=
  [0x30, 0x0d, 0xa0, 0x0b, 0x30, 0x09, 0x87, 0x04, 0x0a, 0x00, 0x00, 0x01, 0x81, 0x01, 0x01]

/-- Constraints that permit the host are written in fifteen octets, which are read as them. -/
theorem ofElement_toElement_isConstraints_host :
    ofLists (some ⟨[hostSubtree]⟩) (some ⟨[]⟩) = .ok ⟨some ⟨[hostSubtree]⟩, none⟩ ∧
      hostSubtree.base.WireValid .subtree ∧
      ∃ element, toElement ⟨some ⟨[hostSubtree]⟩, none⟩ = .ok element ∧
        element.toOctets = .ok hostOctets ∧
        ofElement element = .ok ⟨some ⟨[hostSubtree]⟩, none⟩ ∧
        IsConstraints GeneralSubtree.Reads element ⟨some ⟨[hostSubtree]⟩, none⟩ := by
  have made : ofLists (some ⟨[hostSubtree]⟩) (some ⟨[]⟩) = .ok ⟨some ⟨[hostSubtree]⟩, none⟩ := rfl
  have valid : hostSubtree.base.WireValid .subtree :=
    ⟨.contextSpecific 7 false (.octetString [0x0a, 0x00, 0x00, 0x01]),
      Element.steady_leaf (Tag.legible_contextSpecific (by decide) false) (by decide), rfl⟩
  have one : Integer.toOctets 1 = [0x01] := by decide +kernel
  have most : GeneralSubtree.boundElement 1 1 =
      .ok (.contextSpecific 1 false (.octetString [0x01])) := by
    rw [← one]
    exact GeneralSubtree.boundElement_eq 1 1
  have subtree : hostSubtree.toElement =
      .ok (.sequence [.contextSpecific 7 false (.octetString [0x0a, 0x00, 0x00, 0x01]),
        .contextSpecific 1 false (.octetString [0x01])]) :=
    Except.bind_eq_ok_iff.2 ⟨_, Except.mapM_eq_ok_iff.2 (.cons most .nil), rfl⟩
  have list := Except.mapM_eq_ok_iff.2 (.cons subtree .nil)
  have whole : toElement ⟨some ⟨[hostSubtree]⟩, none⟩ = .ok (.sequence [.contextSpecific 0 true
      (.sequence [.sequence [.contextSpecific 7 false (.octetString [0x0a, 0x00, 0x00, 0x01]),
        .contextSpecific 1 false (.octetString [0x01])]])]) := by
    refine Except.bind_eq_ok_iff.2 ⟨_, Except.mapM_eq_ok_iff.2 (.cons ?_ .nil), rfl⟩
    exact Except.bind_eq_ok_iff.2 ⟨_, Except.map_eq_ok_iff.2 ⟨_, list, rfl⟩, rfl⟩
  obtain ⟨element, octets, written, -, spelled, read, back⟩ :=
    ofElement_toElement_isConstraints.1 _ _ _ made (by simpa using valid)
  obtain rfl := Except.ok.inj (written.symm.trans whole)
  obtain rfl : octets = hostOctets := Except.ok.inj (spelled.symm.trans rfl)
  obtain ⟨again, -⟩ := back (by decide)
  exact ⟨made, valid, _, whole, spelled, read,
    (ofElement_toElement_isConstraints.2 _ _ again _).1 read⟩

end NameConstraints

end X509
