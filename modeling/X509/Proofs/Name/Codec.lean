/-
**Names written as the elements they were read from.**

Reading a name keeps the order at every level, the type of every string and the octets of every
other value. So the element it was read from is the one that is written for it, exactly if the
values kept as octets read back.

* `DirectoryString.exists_of_isString` — strings.
* `AttributeValue.Keeps`, `Attribute.Keeps`, `RelativeName.Keeps`, `Name.Keeps` — what is kept of an
  element, level by level.
* `Name.Keeps.toElement_eq_ok_iff` — which names are written as the elements they were read from.
* `Name.keeps_and_restores` — all that reading a name and writing it again does.
-/

import X509.Name.Codec
import X509.Proofs.Element.ReadsBack

namespace X509

/-! ### Strings -/

/-- Whether an element is a string of one of the four types of directory strings. -/
def Element.isString : Element → Bool
  | .utf8String _ | .printableString _ | .ia5String _ | .bmpString _ => true
  | _ => false

/-- A string element is a directory string, and the element of that. -/
theorem DirectoryString.exists_of_isString {element : Element}
    (isString : element.isString = true) :
    ∃ string, ofElement element = .ok string ∧ string.toElement = element := by
  cases element with
  | utf8String text => exact ⟨⟨.utf8, text⟩, rfl, rfl⟩
  | printableString text => exact ⟨⟨.printable, text⟩, rfl, rfl⟩
  | ia5String text => exact ⟨⟨.ia5, text⟩, rfl, rfl⟩
  | bmpString text => exact ⟨⟨.bmp, text⟩, rfl, rfl⟩
  | _ => cases isString

theorem DirectoryString.isString_toElement (string : DirectoryString) :
    string.toElement.isString = true := by
  obtain ⟨kind, text⟩ := string
  cases kind <;> rfl

/-- What is read as a directory string is a string element or plain octets that spell a text. -/
theorem DirectoryString.cases_of_ofElement {element : Element} {string : DirectoryString}
    (read : ofElement element = .ok string) :
    (element.isString = true ∧ string.toElement = element) ∨
      ∃ octets text, element = .octetString octets ∧ octets.toText? = some text ∧
        string = .utf8 text := by
  cases isString : element.isString with
  | true =>
    obtain ⟨same, here, back⟩ := exists_of_isString isString
    rw [here] at read
    obtain rfl := Except.ok.inj read
    exact .inl ⟨rfl, back⟩
  | false =>
    unfold ofElement at read
    split at read
    · cases isString
    · cases isString
    · cases isString
    · cases isString
    · next octets =>
      split at read
      · next text spelling =>
        obtain rfl := Except.ok.inj read
        exact .inr ⟨octets, text, rfl, spelling, rfl⟩
      · cases read
    · cases read

/-! ### Attributes -/

namespace AttributeValue

variable {element : Element} {value : AttributeValue}

/-- **What is kept of the value of an attribute:** a string and its type, or the octets of an
element of any other kind. -/
inductive Keeps : Element → AttributeValue → Prop where
  | text (string : DirectoryString) : Keeps string.toElement (.text string)
  | encoded {element : Element} {octets : Octets} (other : element.isString = false)
      (written : element.toOctets = .ok octets) : Keeps element (.encoded octets)

theorem ofElement_of_isString (isString : element.isString = true) :
    ofElement element = (DirectoryString.ofElement element).map .text := by
  cases element <;> first | rfl | cases isString

/-- What is no string is kept as its octets. -/
theorem ofElement_of_not_isString (other : element.isString = false) :
    ofElement element = (element.toOctets.mapError .element).map .encoded := by
  cases element <;> first | rfl | cases other

theorem ofElement_eq_ok_iff : ofElement element = .ok value ↔ Keeps element value := by
  constructor
  · intro read
    cases isString : element.isString with
    | true =>
      obtain ⟨string, here, rfl⟩ := DirectoryString.exists_of_isString isString
      rw [ofElement_of_isString isString, here] at read
      obtain rfl := Except.ok.inj read
      exact .text string
    | false =>
      rw [ofElement_of_not_isString isString] at read
      obtain ⟨octets, written, rfl⟩ := Except.map_eq_ok_iff.1 read
      exact .encoded isString (Except.mapError_eq_ok_iff.1 written)
  · intro keeps
    cases keeps with
    | text string =>
      rw [ofElement_of_isString string.isString_toElement, string.ofElement_toElement]
      rfl
    | encoded other written =>
      rw [ofElement_of_not_isString other, written]
      rfl

theorem Keeps.toElement_eq_ok_iff (keeps : Keeps element value) :
    value.toElement = .ok element ↔ (element.isString = false → element.ReadsBack) := by
  cases keeps with
  | text string =>
    refine ⟨fun _ other => ?_, fun _ => rfl⟩
    rw [string.isString_toElement] at other
    cases other
  | encoded other written =>
    rw [toElement, Except.mapError_eq_ok_iff, Element.ReadsBack, written]
    exact ⟨fun read _ => read, fun back => back other⟩

end AttributeValue

namespace Attribute

variable {element : Element} {attr : Attribute}

/-- What is kept of the type and the value of an attribute. -/
def Keeps (element : Element) (attr : Attribute) : Prop :=
  ∃ value, element = .sequence [.objectIdentifier attr.type, value] ∧
    AttributeValue.Keeps value attr.value

theorem ofElement_eq_ok_iff : ofElement element = .ok attr ↔ Keeps element attr := by
  constructor
  · intro read
    unfold ofElement at read
    split at read
    · next type value =>
      obtain ⟨kept, here, same⟩ := Except.bind_eq_ok_iff.1 read
      obtain rfl := Except.ok.inj same
      exact ⟨value, rfl, AttributeValue.ofElement_eq_ok_iff.1 here⟩
    · cases read
    · cases read
    · cases read
  · rintro ⟨value, rfl, keeps⟩
    exact Except.bind_eq_ok_iff.2 ⟨attr.value, AttributeValue.ofElement_eq_ok_iff.2 keeps, rfl⟩

theorem Keeps.toElement_eq_ok_iff (keeps : Keeps element attr) :
    attr.toElement = .ok element ↔
      ∀ type value, element = .sequence [.objectIdentifier type, value] →
        value.isString = false → value.ReadsBack := by
  obtain ⟨value, rfl, keeps⟩ := keeps
  rw [toElement, Except.bind_eq_ok_iff]
  constructor
  · rintro ⟨written, here, same⟩ type other whole
    cases Except.ok.inj same
    cases whole
    exact keeps.toElement_eq_ok_iff.1 here
  · intro restored
    exact ⟨value, keeps.toElement_eq_ok_iff.2 (restored _ value rfl), rfl⟩

end Attribute

/-! ### Names -/

namespace RelativeName

variable {element : Element} {relative : RelativeName} {members : List Element}

/-- What is kept of a set of attributes: each of them, in their order. -/
def Keeps (element : Element) (relative : RelativeName) : Prop :=
  relative.attributes ≠ [] ∧ ∃ members, element = .set members ∧
    List.Forall₂ Attribute.Keeps members relative.attributes

/-- **A relative name is read from a set that is not empty,** attribute by attribute. -/
theorem ofElement_set_eq_ok_iff :
    ofElement (.set members) = .ok relative ↔
      relative.attributes ≠ [] ∧
        List.Forall₂ (fun member attr => Attribute.ofElement member = .ok attr) members
          relative.attributes := by
  refine Except.bind_eq_ok_iff.trans ?_
  simp only [Except.mapM_eq_ok_iff, ofAttributes]
  constructor
  · rintro ⟨attributes, each, made⟩
    split at made
    · cases made
    · next filled =>
      cases made
      exact ⟨fun none => filled (List.isEmpty_iff.2 none), each⟩
  · rintro ⟨filled, each⟩
    refine ⟨relative.attributes, each, ?_⟩
    rw [List.isEmpty_eq_false_iff.2 filled]
    rfl

theorem ofElement_eq_ok_iff : ofElement element = .ok relative ↔ Keeps element relative := by
  constructor
  · intro read
    cases element with
    | set members =>
      obtain ⟨filled, each⟩ := ofElement_set_eq_ok_iff.1 read
      simp only [Attribute.ofElement_eq_ok_iff] at each
      exact ⟨filled, members, rfl, each⟩
    | _ => cases read
  · rintro ⟨filled, members, rfl, each⟩
    refine ofElement_set_eq_ok_iff.2 ⟨filled, ?_⟩
    simpa only [Attribute.ofElement_eq_ok_iff] using each

theorem Keeps.toElement_eq_ok_iff (keeps : Keeps element relative) :
    relative.toElement = .ok element ↔
      ∀ members type value, element = .set members →
        .sequence [.objectIdentifier type, value] ∈ members → value.isString = false →
          value.ReadsBack := by
  obtain ⟨-, members, rfl, each⟩ := keeps
  have inside :=
    Except.mapM_eq_ok_iff_of_forall₂ each fun _ _ => Attribute.Keeps.toElement_eq_ok_iff
  rw [toElement, Except.map_eq_ok_iff]
  constructor
  · rintro ⟨_, written, same⟩ _ type value whole member
    cases same
    cases whole
    exact inside.1 written _ member type value rfl
  · intro restored
    refine ⟨members, inside.2 fun one member type value same => ?_, rfl⟩
    rw [same] at member
    exact restored members type value rfl member

theorem toElement_of_ofElement
    (restored : ∀ members type value, element = .set members →
      .sequence [.objectIdentifier type, value] ∈ members → value.isString = false →
        value.ReadsBack)
    (read : ofElement element = .ok relative) : relative.toElement = .ok element :=
  (ofElement_eq_ok_iff.1 read).toElement_eq_ok_iff.2 restored

end RelativeName

/-- A value of an attribute in the element of a name. -/
def Element.HoldsValue (element value : Element) : Prop :=
  ∃ levels attributes type, element = .sequence levels ∧ .set attributes ∈ levels ∧
    .sequence [.objectIdentifier type, value] ∈ attributes

/-- The values in the element of a name occur in it. -/
theorem Element.HoldsValue.occurs {element value : Element} (holds : element.HoldsValue value) :
    Occurs value element := by
  obtain ⟨levels, attributes, type, rfl, inLevel, inSet⟩ := holds
  refine .inside inLevel (.inside inSet (.inside ?_ .here))
  exact List.mem_cons_of_mem _ List.mem_cons_self

namespace Name

variable {element : Element} {name : Name}

/-- What is kept of a sequence of relative names: each of them, in their order. -/
def Keeps (element : Element) (name : Name) : Prop :=
  ∃ levels, element = .sequence levels ∧ List.Forall₂ RelativeName.Keeps levels name.levels

theorem ofElement_eq_ok_iff : ofElement element = .ok name ↔ Keeps element name := by
  constructor
  · intro read
    cases element with
    | sequence levels =>
      obtain ⟨relatives, each, rfl⟩ := Except.map_eq_ok_iff.1 read
      simp only [Except.mapM_eq_ok_iff, RelativeName.ofElement_eq_ok_iff] at each
      exact ⟨levels, rfl, each⟩
    | _ => cases read
  · rintro ⟨levels, rfl, each⟩
    refine Except.map_eq_ok_iff.2 ⟨name.levels, ?_, rfl⟩
    simpa only [Except.mapM_eq_ok_iff, RelativeName.ofElement_eq_ok_iff] using each

/-- **A name is written as the element it was read from exactly if the values that are no strings
read back.** -/
theorem Keeps.toElement_eq_ok_iff (keeps : Keeps element name) :
    name.toElement = .ok element ↔
      ∀ value, element.HoldsValue value → value.isString = false → value.ReadsBack := by
  obtain ⟨levels, rfl, each⟩ := keeps
  have inside :=
    Except.mapM_eq_ok_iff_of_forall₂ each fun _ _ => RelativeName.Keeps.toElement_eq_ok_iff
  rw [toElement, Except.map_eq_ok_iff]
  constructor
  · rintro ⟨_, written, same⟩ value ⟨_, attributes, type, whole, level, member⟩
    cases same
    cases whole
    exact inside.1 written _ level attributes type value rfl member
  · intro restored
    refine ⟨levels, inside.2 fun level listed attributes type value same member => ?_, rfl⟩
    rw [same] at listed
    exact restored value ⟨levels, attributes, type, rfl, listed, member⟩

theorem toElement_of_ofElement
    (restored : ∀ value, element.HoldsValue value → value.isString = false → value.ReadsBack)
    (read : ofElement element = .ok name) : name.toElement = .ok element :=
  (ofElement_eq_ok_iff.1 read).toElement_eq_ok_iff.2 restored

/-- **A name keeps all of the element it was read from:** every level, every attribute and every
value in its place, a string with its type and any other value as its octets. It is written as that
element exactly if those octets read back. -/
theorem keeps_and_restores (read : ofElement element = .ok name) :
    Keeps element name ∧
      (name.toElement = .ok element ↔
        ∀ value, element.HoldsValue value → value.isString = false → value.ReadsBack) := by
  have keeps := ofElement_eq_ok_iff.1 read
  exact ⟨keeps, keeps.toElement_eq_ok_iff⟩

/-- Two levels, the second with strings of two types and an octet string between them. -/
theorem keeps_and_restores_octets :
    let inner := [Element.sequence [.objectIdentifier ⟨[2, 5, 4, 3]⟩, .printableString "A"],
      .sequence [.objectIdentifier ⟨[2, 5, 4, 5]⟩, .octetString [1, 2]],
      .sequence [.objectIdentifier ⟨[2, 5, 4, 11]⟩, .ia5String "B"]]
    let outer := [Element.sequence [.objectIdentifier ⟨[2, 5, 4, 10]⟩, .bmpString "C"]]
    ∃ name, ofElement (.sequence [.set outer, .set inner]) = .ok name ∧
      name.toElement = .ok (.sequence [.set outer, .set inner]) := by
  intro inner outer
  have sound : Element.Sound (.octetString [1, 2]) (Element.leafOf .octetString [1, 2]) :=
    ⟨rfl, Tlv.spellsItself_leaf_iff.2 ⟨⟨by decide, by decide⟩, by decide, by decide⟩, rfl⟩
  have read : ofElement (.sequence [.set outer, .set inner]) = .ok _ := rfl
  refine ⟨_, read, (keeps_and_restores read).2.2 ?_⟩
  rintro value ⟨levels, attributes, type, whole, level, member⟩ other
  obtain rfl := Element.sequence.inj whole
  have placed : attributes = outer ∨ attributes = inner := by simpa using level
  rcases placed with rfl | rfl
  · obtain ⟨-, rfl⟩ : type = ⟨[2, 5, 4, 10]⟩ ∧ value = .bmpString "C" := by
      simpa [outer] using member
    cases other
  · obtain ⟨-, rfl⟩ | ⟨-, rfl⟩ | ⟨-, rfl⟩ : (type = ⟨[2, 5, 4, 3]⟩ ∧ value = .printableString "A") ∨
        (type = ⟨[2, 5, 4, 5]⟩ ∧ value = .octetString [1, 2]) ∨
          (type = ⟨[2, 5, 4, 11]⟩ ∧ value = .ia5String "B") := by
      simpa [inner] using member
    · cases other
    · exact sound.readsBack
    · cases other

end Name

end X509
