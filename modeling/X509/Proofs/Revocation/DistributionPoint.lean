/-
**Distribution points as elements.**

A distribution point is its name, its reasons and its issuer in that order, each under a tag of its
own and each of them perhaps absent, but not both name and issuer. Fields are read one after the
other with the least slot that may come next; taken field by field, that is reading three fields
that may be absent.

* `DistributionPointName.IsName`, `DistributionPoint.IsPoint` — names and points, and the elements
  that stand for them.
* `DistributionPoint.ofElement_eq_ok_iff` — which elements are read.
* `DistributionPoint.exists_writes` — the element that is written.
* `DistributionPoint.ofElement_toElement_isPoint` — both ways, by octets.
-/

import Mathlib.Data.List.GetD
import Mathlib.Data.List.TakeWhile
import X509.Proofs.Element.Fields
import X509.Proofs.GeneralName.Codec
import X509.Proofs.Value.BitString
import X509.Revocation.DistributionPoint

namespace X509

open ContentError (fromElement_eq_ok_iff fromPkix_eq_ok_iff)

/-! ### Relative names -/

namespace RelativeName

variable {relative : RelativeName}

/-- **A relative name that is read from an element in which every element reads back.** -/
def WireValid (relative : RelativeName) : Prop :=
  ∃ element : Element, element.Steady ∧ ofElement element = .ok relative

/-- Such a relative name is written as a set whose members stand for encoded values, and read from
it. -/
theorem WireValid.exists_coded (valid : relative.WireValid) :
    ∃ members, relative.toElement = .ok (.set members) ∧ ofElement (.set members) = .ok relative ∧
      ∀ member ∈ members, ∃ tlv, Element.Coded member tlv := by
  obtain ⟨element, steady, read⟩ := valid
  have written : relative.toElement = .ok element := by
    refine toElement_of_ofElement (fun members type value same inside _ => ?_) read
    subst same
    have attr : (Element.sequence [.objectIdentifier type, value]).Steady :=
      steady.of_inside inside
    exact (attr.of_inside (List.mem_cons_of_mem _ List.mem_cons_self)).readsBack
  unfold ofElement at read
  split at read
  · next members =>
    refine ⟨members, written, read, fun member inside => ?_⟩
    obtain ⟨tlv, sound⟩ := (steady.of_inside inside).sound
    exact ⟨tlv, sound.coded⟩
  · cases read

end RelativeName

/-! ### Reasons -/

namespace ReasonFlags

/-- Bits without the zeros at their end count the same. -/
theorem getD_trimZeros (bits : List Bool) (index : Nat) :
    (trimZeros bits).getD index false = bits.getD index false := by
  have whole : trimZeros bits ++ (bits.reverse.takeWhile (!·)).reverse = bits := by
    rw [trimZeros, ← List.reverse_append, List.takeWhile_append_dropWhile, List.reverse_reverse]
  have zeros : ∀ bit ∈ (bits.reverse.takeWhile (!·)).reverse, bit = false := by
    intro bit inside
    simpa using List.mem_takeWhile_imp (List.mem_reverse.1 inside)
  conv_rhs => rw [← whole]
  rcases Nat.lt_or_ge index (trimZeros bits).length with inside | beyond
  · exact (List.getD_append _ _ _ _ inside).symm
  · rw [List.getD_append_right _ _ _ _ beyond, List.getD_eq_default _ _ beyond,
      List.eq_replicate_of_mem zeros, List.getD_eq_getElem?_getD,
      List.getElem?_getD_replicate_default_eq]

/-- **The bits that are written for reasons stand for those reasons.** -/
theorem ofBits_toElement (flags : ReasonFlags) :
    ofBits (BitString.ofBits (trimZeros flags.toBits)).toBits = flags := by
  rw [BitString.toBits_ofBits]
  simp only [ofBits, getD_trimZeros]
  rfl

end ReasonFlags

/-! ### Names -/

namespace DistributionPointName

variable {element : Element} {name : DistributionPointName}

/-- **The name of a distribution point and its element:** general names in a sequence, or attributes
in a set, each with the tag in place of that of the sequence or set, and neither empty. -/
inductive IsName : Element → DistributionPointName → Prop where
  | full {members : List Element} {names : GeneralNames} (filled : names.names ≠ [])
      (each : List.Forall₂ (fun member name => GeneralName.ofElement .plain member = .ok name)
        members names.names) :
      IsName (.contextSpecific 0 true (.sequence members)) (.fullName names)
  | relative {members : List Element} {relative : RelativeName}
      (filled : relative.attributes ≠ [])
      (each : List.Forall₂ (fun member attr => Attribute.ofElement member = .ok attr) members
        relative.attributes) :
      IsName (.contextSpecific 1 true (.sequence members)) (.relativeName relative)

theorem full_eq_ok {names : GeneralNames} (filled : names.names ≠ []) :
    full names = .ok (.fullName names) := by
  rw [full, List.isEmpty_eq_false_iff.2 filled]
  rfl

/-- **The name of a distribution point is read from its elements.** -/
theorem ofElement_eq_ok_iff (wasRead : element.WasRead) :
    ofElement element = .ok name ↔ IsName element name := by
  constructor
  · intro read
    unfold ofElement at read
    split at read
    · obtain ⟨-, members, rfl⟩ | ⟨⟨⟩, -⟩ := wasRead.contextSpecific_cases
      obtain ⟨_, untagged, rest⟩ := Except.bind_eq_ok_iff.1 read
      cases untagged
      obtain ⟨names, listed, made⟩ := Except.bind_eq_ok_iff.1 rest
      obtain ⟨filled, _, ⟨⟩, each⟩ := GeneralNames.ofElement_eq_ok_iff.1 listed
      rw [full_eq_ok filled] at made
      cases made
      exact .full filled each
    · obtain ⟨-, members, rfl⟩ | ⟨⟨⟩, -⟩ := wasRead.contextSpecific_cases
      obtain ⟨_, untagged, rest⟩ := Except.bind_eq_ok_iff.1 read
      cases untagged
      obtain ⟨relative, found, same⟩ := Except.bind_eq_ok_iff.1 rest
      cases same
      obtain ⟨filled, each⟩ :=
        RelativeName.ofElement_set_eq_ok_iff.1 (fromPkix_eq_ok_iff.1 found)
      exact .relative filled each
    · cases read
    · cases read
    · cases read
    · cases read
  · rintro (⟨filled, each⟩ | ⟨filled, each⟩)
    · have listed := GeneralNames.ofElement_eq_ok_iff.2 ⟨filled, _, rfl, each⟩
      refine Except.bind_eq_ok_iff.2 ⟨_, rfl, ?_⟩
      exact Except.bind_eq_ok_iff.2 ⟨_, listed, full_eq_ok filled⟩
    · have found := fromPkix_eq_ok_iff.2 (RelativeName.ofElement_set_eq_ok_iff.2 ⟨filled, each⟩)
      exact Except.bind_eq_ok_iff.2 ⟨_, rfl, Except.bind_eq_ok_iff.2 ⟨_, found, rfl⟩⟩

/-- **A name of a distribution point that stands for itself inside other elements:** a full name of
such names, not empty, or such a relative name. -/
def WireValid : DistributionPointName → Prop
  | .fullName names => names.names ≠ [] ∧ ∀ name ∈ names.names, name.WireValid .plain
  | .relativeName relative => relative.WireValid

/-- Such a name is written as an element of it, which stands for an encoded value. -/
theorem WireValid.exists_coded (valid : name.WireValid) :
    ∃ element, name.toElement = .ok element ∧ IsName element name ∧
      ∃ tlv, Element.Coded element tlv := by
  cases name with
  | fullName names =>
    obtain ⟨filled, each⟩ := valid
    obtain ⟨members, written, read, codes⟩ := GeneralName.exists_coded_of_wireValid filled each
    obtain ⟨-, _, ⟨⟩, reads⟩ := GeneralNames.ofElement_eq_ok_iff.1 read
    have legible := Tag.legible_contextSpecific (by decide : 0 < Tag.numberMask) true
    exact ⟨_, Except.bind_eq_ok_iff.2 ⟨_, written, rfl⟩, .full filled reads,
      Element.IsNode.contextSpecific.exists_coded codes legible⟩
  | relativeName relative =>
    obtain ⟨members, written, read, codes⟩ := RelativeName.WireValid.exists_coded valid
    obtain ⟨filled, each⟩ := RelativeName.ofElement_set_eq_ok_iff.1 read
    have legible := Tag.legible_contextSpecific (by decide : 1 < Tag.numberMask) true
    exact ⟨_, Except.bind_eq_ok_iff.2 ⟨_, fromPkix_eq_ok_iff.2 written, rfl⟩,
      .relative filled each, Element.IsNode.contextSpecific.exists_coded codes legible⟩

end DistributionPointName

/-! ### Points -/

namespace DistributionPoint

variable {element inner : Element} {fields : List Element} {constructed : Bool} {least place : Nat}
  {point found : DistributionPoint} {name : DistributionPointName} {reasons : ReasonFlags}
  {issuer : GeneralNames}

/-- The name field: the name under an EXPLICIT tag. -/
inductive IsNameField : Element → DistributionPointName → Prop where
  | intro {value : Element} {name : DistributionPointName} (named : name.IsName value) :
      IsNameField (.explicit 0 value) name

/-- The reasons field: the octets of a bit string under a primitive tag. -/
inductive IsReasonsField : Element → ReasonFlags → Prop where
  | intro {data : Octets} {bits : BitString} (spells : BitString.ofOctets data = .ok bits) :
      IsReasonsField (.contextSpecific 1 false (.octetString data)) (.ofBits bits.toBits)

/-- The issuer field: general names, of which there is one at least, under a constructed tag. -/
inductive IsIssuerField : Element → GeneralNames → Prop where
  | intro {members : List Element} {issuer : GeneralNames} (filled : issuer.names ≠ [])
      (each : List.Forall₂ (fun member name => GeneralName.ofElement .plain member = .ok name)
        members issuer.names) :
      IsIssuerField (.contextSpecific 2 true (.sequence members)) issuer

/-- **A distribution point and its element:** the fields in the order of their slots, one of those
of name and issuer at least. -/
inductive IsPoint : Element → DistributionPoint → Prop where
  | intro {front middle back : List Element} {point : DistributionPoint}
      (named : List.Forall₂ IsNameField front point.name.toList)
      (covers : List.Forall₂ IsReasonsField middle point.reasons.toList)
      (issued : List.Forall₂ IsIssuerField back point.issuer.toList)
      (some : point.name ≠ none ∨ point.issuer ≠ none) :
      IsPoint (.sequence (front ++ (middle ++ back))) point

/-- A field in some place, and what it makes of a point. -/
inductive IsField (point : DistributionPoint) : Nat → Element → DistributionPoint → Prop where
  | name {element : Element} {name : DistributionPointName} (field : IsNameField element name) :
      IsField point 0 element { point with name := some name }
  | reasons {element : Element} {reasons : ReasonFlags} (field : IsReasonsField element reasons) :
      IsField point 1 element { point with reasons := some reasons }
  | issuer {element : Element} {issuer : GeneralNames} (field : IsIssuerField element issuer) :
      IsField point 2 element { point with issuer := some issuer }

/-! ### Fields that are read -/

theorem isNameField_iff (wasRead : (Element.contextSpecific 0 constructed inner).WasRead) :
    IsNameField (.contextSpecific 0 constructed inner) name ↔
      ∃ value, (Element.contextSpecific 0 constructed inner).explicitInner? = some value ∧
        DistributionPointName.ofElement value = .ok name := by
  constructor
  · rintro ⟨named⟩
    have within := wasRead.of_isNode .contextSpecific _ (List.mem_singleton_self _)
    exact ⟨_, rfl, (DistributionPointName.ofElement_eq_ok_iff within).2 named⟩
  · rintro ⟨value, wrapped, read⟩
    have same := Element.eq_explicit_of_explicitInner? wasRead wrapped
    rw [same] at wasRead ⊢
    have within := wasRead.of_isNode .contextSpecific _ (List.mem_singleton_self _)
    exact .intro ((DistributionPointName.ofElement_eq_ok_iff within).1 read)

theorem isReasonsField_iff (wasRead : (Element.contextSpecific 1 constructed inner).WasRead) :
    IsReasonsField (.contextSpecific 1 constructed inner) reasons ↔
      ∃ bits, ContentError.fromElement
          ((Element.contextSpecific 1 constructed inner).untag .bitString) = .ok bits ∧
        ReasonFlags.ofElement bits = .ok reasons := by
  obtain ⟨rfl, members, rfl⟩ | ⟨rfl, data, rfl⟩ := wasRead.contextSpecific_cases
  · exact ⟨nofun, fun ⟨_, untagged, _⟩ => nomatch untagged⟩
  rw [Element.untag_octets .bitString nofun rfl]
  constructor
  · rintro ⟨spells⟩
    refine ⟨.bitString _, fromElement_eq_ok_iff.2 ?_, rfl⟩
    exact Except.map_eq_ok_iff.2 ⟨_, Except.mapError_eq_ok_iff.2 spells, rfl⟩
  · rintro ⟨_, untagged, same⟩
    obtain ⟨bits, spells, rfl⟩ := Except.map_eq_ok_iff.1 (fromElement_eq_ok_iff.1 untagged)
    cases same
    exact .intro (Except.mapError_eq_ok_iff.1 spells)

theorem isIssuerField_iff (wasRead : (Element.contextSpecific 2 constructed inner).WasRead) :
    IsIssuerField (.contextSpecific 2 constructed inner) issuer ↔
      ∃ list, ContentError.fromElement
          ((Element.contextSpecific 2 constructed inner).untag .sequence) = .ok list ∧
        GeneralNames.ofElement .plain list = .ok issuer := by
  obtain ⟨rfl, members, rfl⟩ | ⟨rfl, data, rfl⟩ := wasRead.contextSpecific_cases
  swap
  · exact ⟨nofun, fun ⟨_, untagged, _⟩ => nomatch untagged⟩
  constructor
  · rintro ⟨filled, each⟩
    exact ⟨_, rfl, GeneralNames.ofElement_eq_ok_iff.2 ⟨filled, members, rfl, each⟩⟩
  · rintro ⟨_, ⟨⟩, read⟩
    obtain ⟨filled, _, ⟨⟩, each⟩ := GeneralNames.ofElement_eq_ok_iff.1 read
    exact .intro filled each

/-- **One more field is read when it is in a place that may come next.** -/
theorem readFields_cons_iff (wasRead : element.WasRead) :
    readFields least point (element :: fields) = .ok found ↔
      ∃ place next, IsField point place element next ∧ least ≤ place ∧
        readFields (place + 1) next fields = .ok found := by
  constructor
  · intro read
    cases element with
    | contextSpecific slot constructed inner =>
      rw [readFields] at read
      split at read
      · cases read
      next early =>
      dsimp only at read
      split at read
      · split at read
        · next value wrapped =>
          obtain ⟨name, named, rest⟩ := Except.bind_eq_ok_iff.1 read
          have here := (isNameField_iff wasRead).2 ⟨value, wrapped, named⟩
          exact ⟨0, _, .name here, Nat.not_lt.1 early, rest⟩
        · cases read
      · obtain ⟨bits, untagged, rest⟩ := Except.bind_eq_ok_iff.1 read
        obtain ⟨reasons, covers, rest⟩ := Except.bind_eq_ok_iff.1 rest
        have here := (isReasonsField_iff wasRead).2 ⟨bits, untagged, covers⟩
        exact ⟨1, _, .reasons here, Nat.not_lt.1 early, rest⟩
      · obtain ⟨list, untagged, rest⟩ := Except.bind_eq_ok_iff.1 read
        obtain ⟨issuer, issued, rest⟩ := Except.bind_eq_ok_iff.1 rest
        have here := (isIssuerField_iff wasRead).2 ⟨list, untagged, issued⟩
        exact ⟨2, _, .issuer here, Nat.not_lt.1 early, rest⟩
      · cases read
    | _ => cases read
  · rintro ⟨place, next, field, early, read⟩
    cases field with
    | name field =>
      have late : ¬ (0 : UInt8).toNat < least := Nat.not_lt.2 early
      obtain ⟨named⟩ := field
      obtain ⟨value, wrapped, here⟩ := (isNameField_iff wasRead).1 (.intro named)
      cases wrapped
      rw [Element.explicit, readFields, if_neg late]
      exact Except.bind_eq_ok_iff.2 ⟨_, here, read⟩
    | reasons field =>
      have late : ¬ (1 : UInt8).toNat < least := Nat.not_lt.2 early
      obtain ⟨spells⟩ := field
      obtain ⟨bits, untagged, covers⟩ := (isReasonsField_iff wasRead).1 (.intro spells)
      rw [readFields, if_neg late]
      refine Except.bind_eq_ok_iff.2 ⟨_, untagged, ?_⟩
      exact Except.bind_eq_ok_iff.2 ⟨_, covers, read⟩
    | issuer field =>
      have late : ¬ (2 : UInt8).toNat < least := Nat.not_lt.2 early
      obtain ⟨filled, each⟩ := field
      obtain ⟨list, untagged, issued⟩ := (isIssuerField_iff wasRead).1 (.intro filled each)
      rw [readFields, if_neg late]
      refine Except.bind_eq_ok_iff.2 ⟨_, untagged, ?_⟩
      exact Except.bind_eq_ok_iff.2 ⟨_, issued, read⟩

/-- A place is filled by the first field, or passed over. -/
theorem readFields_eq_ok_iff_succ (wasRead : ∀ field ∈ fields, field.WasRead) :
    readFields place point fields = .ok found ↔
      readFields (place + 1) point fields = .ok found ∨
        ∃ element rest next, fields = element :: rest ∧ IsField point place element next ∧
          readFields (place + 1) next rest = .ok found := by
  cases fields with
  | nil =>
    constructor
    · exact .inl
    · rintro (same | ⟨_, _, _, ⟨⟩, _⟩)
      exact same
  | cons element rest =>
    have here := wasRead element List.mem_cons_self
    rw [readFields_cons_iff here, readFields_cons_iff here]
    constructor
    · rintro ⟨there, next, field, le, read⟩
      rcases Nat.eq_or_lt_of_le le with rfl | later
      · exact .inr ⟨element, rest, next, rfl, field, read⟩
      · exact .inl ⟨there, next, field, later, read⟩
    · rintro (⟨there, next, field, later, read⟩ | ⟨_, _, next, ⟨⟩, field, read⟩)
      · exact ⟨there, next, field, Nat.le_of_lt later, read⟩
      · exact ⟨place, next, field, Nat.le_refl place, read⟩

/-- Nothing comes after the last place. -/
theorem readFields_three_eq_ok_iff (wasRead : ∀ field ∈ fields, field.WasRead) :
    readFields 3 point fields = .ok found ↔ fields = [] ∧ found = point := by
  cases fields with
  | nil =>
    rw [readFields, Except.ok.injEq]
    exact ⟨fun same => ⟨rfl, same.symm⟩, fun same => same.2.symm⟩
  | cons element rest =>
    rw [readFields_cons_iff (wasRead element List.mem_cons_self)]
    constructor
    · rintro ⟨_, _, field, late, _⟩
      cases field <;> omega
    · rintro ⟨⟨⟩, _⟩

/-- **A field that may be absent is read, and then those after it.** Here `set` makes of the point
what it is with the field, or without it. -/
theorem readFields_step {α : Type} {IsValue : Element → α → Prop}
    (set : Option α → DistributionPoint)
    (isField_iff : ∀ element next, IsField (set none) place element next ↔
      ∃ value, IsValue element value ∧ set (some value) = next)
    (wasRead : ∀ field ∈ fields, field.WasRead) :
    readFields place (set none) fields = .ok found ↔
      ∃ front rest value?, fields = front ++ rest ∧
        List.Forall₂ IsValue front (Option.toList value?) ∧
          readFields (place + 1) (set value?) rest = .ok found := by
  rw [readFields_eq_ok_iff_succ wasRead, Element.exists_optional_iff]
  refine or_congr_right (exists_congr fun element => exists_congr fun rest => ?_)
  constructor
  · rintro ⟨_, same, field, read⟩
    obtain ⟨value, isValue, rfl⟩ := (isField_iff element _).1 field
    exact ⟨value, same, isValue, read⟩
  · rintro ⟨value, same, isValue, read⟩
    exact ⟨_, same, (isField_iff element _).2 ⟨value, isValue, rfl⟩, read⟩

/-- The name is read, and then the reasons and the issuer. -/
theorem readFields_zero_eq_ok_iff (wasRead : ∀ field ∈ fields, field.WasRead) :
    readFields 0 { name := none, reasons := none, issuer := none } fields = .ok found ↔
      ∃ front rest name, fields = front ++ rest ∧
        List.Forall₂ IsNameField front (Option.toList name) ∧
          readFields 1 { name, reasons := none, issuer := none } rest = .ok found := by
  refine readFields_step (fun name => { name, reasons := none, issuer := none }) ?_ wasRead
  intro element next
  constructor
  · intro field
    cases field with
    | name field => exact ⟨_, field, rfl⟩
  · rintro ⟨name, field, rfl⟩
    exact .name field

/-- The reasons are read, and then the issuer. -/
theorem readFields_one_eq_ok_iff {name : Option DistributionPointName}
    (wasRead : ∀ field ∈ fields, field.WasRead) :
    readFields 1 { name, reasons := none, issuer := none } fields = .ok found ↔
      ∃ front rest reasons, fields = front ++ rest ∧
        List.Forall₂ IsReasonsField front (Option.toList reasons) ∧
          readFields 2 { name, reasons, issuer := none } rest = .ok found := by
  refine readFields_step (fun reasons => { name, reasons, issuer := none }) ?_ wasRead
  intro element next
  constructor
  · intro field
    cases field with
    | reasons field => exact ⟨_, field, rfl⟩
  · rintro ⟨reasons, field, rfl⟩
    exact .reasons field

/-- The issuer is read, and then nothing. -/
theorem readFields_two_eq_ok_iff {name : Option DistributionPointName}
    {reasons : Option ReasonFlags} (wasRead : ∀ field ∈ fields, field.WasRead) :
    readFields 2 { name, reasons, issuer := none } fields = .ok found ↔
      ∃ issuer, List.Forall₂ IsIssuerField fields (Option.toList issuer) ∧
        found = { name, reasons, issuer } := by
  have step : readFields 2 { name, reasons, issuer := none } fields = .ok found ↔
      ∃ front rest issuer, fields = front ++ rest ∧
        List.Forall₂ IsIssuerField front (Option.toList issuer) ∧
          readFields 3 { name, reasons, issuer } rest = .ok found := by
    refine readFields_step (fun issuer => { name, reasons, issuer }) ?_ wasRead
    intro element next
    constructor
    · intro field
      cases field with
      | issuer field => exact ⟨_, field, rfl⟩
    · rintro ⟨issuer, field, rfl⟩
      exact .issuer field
  rw [step]
  constructor
  · rintro ⟨front, rest, issuer, rfl, issued, read⟩
    obtain ⟨-, others⟩ := List.forall_mem_append.1 wasRead
    obtain ⟨rfl, rfl⟩ := (readFields_three_eq_ok_iff others).1 read
    exact ⟨issuer, by rwa [List.append_nil], rfl⟩
  · rintro ⟨issuer, issued, rfl⟩
    exact ⟨fields, [], issuer, (List.append_nil fields).symm, issued, rfl⟩

/-- **Fields are read name first, then reasons, then issuer,** each at most once. -/
theorem readFields_eq_ok_iff (wasRead : ∀ field ∈ fields, field.WasRead) :
    readFields 0 { name := none, reasons := none, issuer := none } fields = .ok found ↔
      ∃ front middle back, fields = front ++ (middle ++ back) ∧
        List.Forall₂ IsNameField front found.name.toList ∧
        List.Forall₂ IsReasonsField middle found.reasons.toList ∧
        List.Forall₂ IsIssuerField back found.issuer.toList := by
  constructor
  · intro read
    obtain ⟨front, rest, name, rfl, named, read⟩ := (readFields_zero_eq_ok_iff wasRead).1 read
    obtain ⟨-, wasRead⟩ := List.forall_mem_append.1 wasRead
    obtain ⟨middle, back, reasons, rfl, covers, read⟩ := (readFields_one_eq_ok_iff wasRead).1 read
    obtain ⟨-, wasRead⟩ := List.forall_mem_append.1 wasRead
    obtain ⟨issuer, issued, rfl⟩ := (readFields_two_eq_ok_iff wasRead).1 read
    exact ⟨front, middle, back, rfl, named, covers, issued⟩
  · rintro ⟨front, middle, back, rfl, named, covers, issued⟩
    obtain ⟨-, others⟩ := List.forall_mem_append.1 wasRead
    obtain ⟨-, last⟩ := List.forall_mem_append.1 others
    refine (readFields_zero_eq_ok_iff wasRead).2 ⟨front, middle ++ back, _, rfl, named, ?_⟩
    refine (readFields_one_eq_ok_iff others).2 ⟨middle, back, _, rfl, covers, ?_⟩
    exact (readFields_two_eq_ok_iff last).2 ⟨_, issued, rfl⟩

/-- A point that was made has the parts it was made from, but for an issuer without names. -/
theorem ofParts_eq_ok_iff {name : Option DistributionPointName} {reasons : Option ReasonFlags}
    {issuer : Option GeneralNames} :
    ofParts name reasons issuer = .ok point ↔
      (point.name ≠ none ∨ point.issuer ≠ none) ∧
        point = { name, reasons, issuer := issuer.filter (!·.names.isEmpty) } := by
  unfold ofParts
  dsimp only
  constructor
  · intro made
    split at made
    · cases made
    · next some =>
      cases made
      exact ⟨not_and_or.1 some, rfl⟩
  · rintro ⟨some, rfl⟩
    exact if_neg (not_and_or.2 some)

/-- **A distribution point is read from its elements,** as far as elements are read themselves. -/
theorem ofElement_eq_ok_iff (wasRead : element.WasRead) :
    ofElement element = .ok point ↔ IsPoint element point := by
  have kept {back : List Element} {issuer : Option GeneralNames}
      (issued : List.Forall₂ IsIssuerField back issuer.toList) :
      issuer.filter (!·.names.isEmpty) = issuer := by
    refine issued.filter_eq_self fun _ list field => ?_
    obtain ⟨filled, -⟩ := field
    rw [List.isEmpty_eq_false_iff.2 filled]
    rfl
  constructor
  · intro read
    unfold ofElement at read
    split at read
    · obtain ⟨found, fields, made⟩ := Except.bind_eq_ok_iff.1 read
      obtain ⟨front, middle, back, rfl, named, covers, issued⟩ :=
        (readFields_eq_ok_iff (wasRead.of_isNode .sequence)).1 fields
      obtain ⟨some, rfl⟩ := ofParts_eq_ok_iff.1 made
      dsimp only at some
      rw [kept issued] at some ⊢
      exact .intro named covers issued some
    · cases read
  · rintro ⟨named, covers, issued, some⟩
    have fields := (readFields_eq_ok_iff (wasRead.of_isNode .sequence)).2
      ⟨_, _, _, rfl, named, covers, issued⟩
    refine Except.bind_eq_ok_iff.2 ⟨point, fields, ofParts_eq_ok_iff.2 ⟨some, ?_⟩⟩
    rw [kept issued]

/-! ### Fields that are written -/

theorem exists_nameField (valid : name.WireValid) :
    ∃ field, nameField name = .ok [field] ∧ IsNameField field name ∧
      ∃ tlv, Element.Coded field tlv := by
  obtain ⟨element, written, named, code⟩ := valid.exists_coded
  have legible := Tag.legible_contextSpecific (by decide : 0 < Tag.numberMask) true
  exact ⟨_, Except.bind_eq_ok_iff.2 ⟨element, written, rfl⟩, .intro named,
    Element.IsNode.contextSpecific.exists_coded (List.forall_mem_singleton.2 code) legible⟩

theorem exists_reasonsField (reasons : ReasonFlags) :
    ∃ field, reasonsField reasons = .ok [field] ∧ IsReasonsField field reasons ∧
      ∃ tlv, Element.Coded field tlv := by
  have spells := BitString.ofOctets_toOctets
    (BitString.unused_ofBits (ReasonFlags.trimZeros reasons.toBits)).2
  have shape := IsReasonsField.intro spells
  rw [ReasonFlags.ofBits_toElement] at shape
  have legible := Tag.legible_contextSpecific (by decide : 1 < Tag.numberMask) false
  refine ⟨_, ?_, shape, _, .of_leaf rfl rfl legible rfl⟩
  exact Except.bind_eq_ok_iff.2
    ⟨_, fromElement_eq_ok_iff.2 (Element.implicit_of_leaf rfl rfl 1), rfl⟩

theorem exists_issuerField (filled : issuer.names ≠ [])
    (valid : ∀ name ∈ issuer.names, name.WireValid .plain) :
    ∃ field, issuerField issuer = .ok [field] ∧ IsIssuerField field issuer ∧
      ∃ tlv, Element.Coded field tlv := by
  obtain ⟨members, written, read, codes⟩ := GeneralName.exists_coded_of_wireValid filled valid
  obtain ⟨-, _, ⟨⟩, reads⟩ := GeneralNames.ofElement_eq_ok_iff.1 read
  have legible := Tag.legible_contextSpecific (by decide : 2 < Tag.numberMask) true
  exact ⟨_, Except.bind_eq_ok_iff.2 ⟨_, written, rfl⟩, .intro filled reads,
    Element.IsNode.contextSpecific.exists_coded codes legible⟩

/-- A field that may be absent is written as the element of its value, or as none. -/
theorem exists_optionalField {α : Type} {field : α → Except ContentError (List Element)}
    {IsValue : Element → α → Prop} {value? : Option α}
    (each : ∀ value ∈ value?, ∃ element, field value = .ok [element] ∧ IsValue element value ∧
      ∃ tlv, Element.Coded element tlv) :
    ∃ fields, optionalField field value? = .ok fields ∧
      List.Forall₂ IsValue fields value?.toList ∧
        ∀ field ∈ fields, ∃ tlv, Element.Coded field tlv := by
  cases value? with
  | none => exact ⟨[], rfl, .nil, nofun⟩
  | some value =>
    obtain ⟨element, written, isValue, code⟩ := each value rfl
    exact ⟨[element], written, .cons isValue .nil, List.forall_mem_singleton.2 code⟩

/-- **A distribution point that was made is written as an element of it,** if its names stand for
themselves. -/
theorem exists_writes {name? : Option DistributionPointName} {reasons? : Option ReasonFlags}
    {issuer? : Option GeneralNames} (made : ofParts name? reasons? issuer? = .ok point)
    (named : ∀ name ∈ name?, name.WireValid)
    (issued : ∀ issuer ∈ issuer?, ∀ name ∈ issuer.names, name.WireValid .plain) :
    ∃ element, point.toElement = .ok element ∧ IsPoint element point ∧
      ∃ tlv, Element.Coded element tlv := by
  obtain ⟨some, rfl⟩ := ofParts_eq_ok_iff.1 made
  obtain ⟨front, nameWritten, isName, nameCodes⟩ :=
    exists_optionalField fun name here => exists_nameField (named name here)
  obtain ⟨middle, reasonsWritten, isReasons, reasonsCodes⟩ :=
    exists_optionalField fun flags (_ : flags ∈ reasons?) => exists_reasonsField flags
  obtain ⟨back, issuerWritten, isIssuer, issuerCodes⟩ :=
    exists_optionalField fun issuer (here : issuer ∈ issuer?.filter (!·.names.isEmpty)) => by
      obtain ⟨found, filled⟩ := Option.filter_eq_some_iff.1 here
      exact exists_issuerField (by simpa using filled) (issued issuer found)
  refine ⟨.sequence (front ++ (middle ++ back)), ?writes, .intro isName isReasons isIssuer some,
    ?code⟩
  case writes =>
    refine Except.bind_eq_ok_iff.2 ⟨front, nameWritten, ?_⟩
    refine Except.bind_eq_ok_iff.2 ⟨middle, reasonsWritten, ?_⟩
    refine Except.bind_eq_ok_iff.2 ⟨back, issuerWritten, ?_⟩
    rw [List.append_assoc]
    rfl
  case code =>
    refine Element.IsNode.sequence.exists_coded ?_ ⟨by decide, by decide⟩
    exact List.forall_mem_append.2 ⟨nameCodes, List.forall_mem_append.2 ⟨reasonsCodes, issuerCodes⟩⟩

/-! ### Both ways -/

/-- **Distribution points are written, read back from their octets, and read from nothing else.**
Those that were made of names that stand for themselves, with any reasons, are written as an element
of them; as long as the octets fit a word, they are read as that element, and it as that point. And
an element that octets are read as is read as a distribution point exactly when it is one of its
elements. -/
theorem ofElement_toElement_isPoint :
    (∀ name? reasons? issuer? point, ofParts name? reasons? issuer? = .ok point →
      (∀ name ∈ name?, name.WireValid) →
      (∀ issuer ∈ issuer?, ∀ name ∈ issuer.names, name.WireValid .plain) →
      ∃ element octets, point.toElement = .ok element ∧ IsPoint element point ∧
        element.toOctets = .ok octets ∧ ofElement element = .ok point ∧
        (octets.length < Length.bound → Element.ofOctets octets = .ok element)) ∧
    (∀ octets element, Element.ofOctets octets = .ok element → ∀ point,
      ofElement element = .ok point ↔ IsPoint element point) := by
  constructor
  · intro name? reasons? issuer? point made named issued
    obtain ⟨element, writes, shape, tlv, coded⟩ := exists_writes made named issued
    obtain ⟨written, back⟩ := coded.exists_octets
    exact ⟨element, tlv.write, writes, shape, written,
      (ofElement_eq_ok_iff ⟨tlv, coded.read⟩).2 shape, back⟩
  · intro octets element read point
    exact ofElement_eq_ok_iff (Element.wasRead_of_ofOctets read)

/-- A host. -/
def hostNames : GeneralNames :=
  ⟨[.ipAddress (.address (.v4 0x0a000001#32))]⟩

/-- A point that has the host as its name and as its issuer, and covers one reason. -/
def hostPoint : DistributionPoint :=
  { name := some (.fullName hostNames),
    reasons := some (.ofBits [false, true]),
    issuer := some hostNames }

/-- The octets of that point. -/
def hostPointOctets : Octets :=
  [0x30, 0x16, 0xa0, 0x08, 0xa0, 0x06, 0x87, 0x04, 0x0a, 0x00, 0x00, 0x01, 0x81, 0x02, 0x06, 0x40,
    0xa2, 0x06, 0x87, 0x04, 0x0a, 0x00, 0x00, 0x01]

/-- The point is written in twenty-four octets, which are read as an element of it. -/
theorem ofElement_toElement_isPoint_host :
    ofParts hostPoint.name hostPoint.reasons hostPoint.issuer = .ok hostPoint ∧
      (∀ name ∈ hostNames.names, name.WireValid .plain) ∧
      ∃ element, hostPoint.toElement = .ok element ∧ element.toOctets = .ok hostPointOctets ∧
        Element.ofOctets hostPointOctets = .ok element ∧ ofElement element = .ok hostPoint ∧
        IsPoint element hostPoint := by
  have made : ofParts hostPoint.name hostPoint.reasons hostPoint.issuer = .ok hostPoint := rfl
  have valid : ∀ name ∈ hostNames.names, name.WireValid .plain :=
    List.forall_mem_singleton.2
      ⟨.contextSpecific 7 false (.octetString [0x0a, 0x00, 0x00, 0x01]),
        Element.steady_leaf (Tag.legible_contextSpecific (by decide) false) (by decide), rfl⟩
  have named : ∀ name ∈ hostPoint.name, name.WireValid := by
    rintro _ ⟨⟩
    exact ⟨List.cons_ne_nil _ _, valid⟩
  have issued : ∀ issuer ∈ hostPoint.issuer, ∀ name ∈ issuer.names, name.WireValid .plain := by
    rintro _ ⟨⟩
    exact valid
  obtain ⟨element, octets, written, -, spelled, read, back⟩ :=
    ofElement_toElement_isPoint.1 _ _ _ _ made named issued
  have same : octets = hostPointOctets := by
    cases written
    exact Except.ok.inj (spelled.symm.trans rfl)
  subst same
  have again := back (by decide)
  exact ⟨made, valid, element, written, spelled, again, read,
    (ofElement_toElement_isPoint.2 _ _ again _).1 read⟩

end DistributionPoint

end X509
