/-
**Fields under context-specific tags.**

The members of an element that was read were read as well. Fields that may be absent come in the
order of their slots and at most once: a reader that passes on what it has found so far accepts
exactly the fields of the first slot followed by those of the second.

* `Element.WasRead.of_isNode` — members.
* `Element.ReadsTwo.read_eq_ok_iff` — readers of two fields that may be absent.
-/

import X509.Proofs.Element.Coded

namespace X509.Element

variable {element inner : Element} {elements members : List Element} {slot : UInt8}
  {constructed : Bool} {tag : Tag} {octets : Octets}

/-! ### Members that were read -/

/-- **The members of a node that was read were read.** -/
theorem WasRead.of_isNode (wasRead : element.WasRead) (node : IsNode tag members element) :
    ∀ member ∈ members, member.WasRead := by
  have listed {children : List Tlv} (read : ofTlvs children = .ok members) :
      ∀ member ∈ members, member.WasRead :=
    (ofTlvs_eq_ok_iff.1 read).forall_mem fun tlv _ read => ⟨tlv, read⟩
  obtain ⟨tlv, read⟩ := wasRead
  unfold ofTlv at read
  split at read
  · cases read
    cases node
  · cases read
  · rcases ofData_cases read with ⟨type, plain⟩ | rfl
    · cases node <;> cases plain
    · cases node
  · cases read
    cases node
  · obtain ⟨others, inner, rfl⟩ := Except.map_eq_ok_iff.1 read
    cases node
    exact listed inner
  · split at read
    · obtain ⟨others, inner, rfl⟩ := Except.map_eq_ok_iff.1 read
      cases node
      exact listed inner
    · obtain ⟨others, inner, rfl⟩ := Except.map_eq_ok_iff.1 read
      cases node
      exact listed inner
    · cases read
      cases node

/-! ### A field that may be absent -/

/-- What comes after a field that may be absent comes first, or after that field. -/
theorem exists_optional_iff {α : Type} {IsField : Element → α → Prop}
    {After : Option α → List Element → Prop} :
    (∃ front rest value?, elements = front ++ rest ∧
      List.Forall₂ IsField front (Option.toList value?) ∧ After value? rest) ↔
      After none elements ∨
        ∃ element rest value, elements = element :: rest ∧ IsField element value ∧
          After (some value) rest := by
  constructor
  · rintro ⟨front, rest, value?, rfl, fields, after⟩
    cases value? with
    | none =>
      cases fields
      exact .inl after
    | some value =>
      cases fields with
      | cons field none =>
        cases none
        exact .inr ⟨_, rest, value, rfl, field, after⟩
  · rintro (after | ⟨element, rest, value, rfl, field, after⟩)
    · exact ⟨[], elements, none, rfl, .nil, after⟩
    · exact ⟨[element], rest, some value, rfl, .cons field .nil, after⟩

/-! ### Two fields -/

/-- **A reader of two fields that may be absent.** It is given what has been found of each, and
finds a field only if neither that field nor the one after it has been found. -/
structure ReadsTwo {ε α : Type} (IsField : UInt8 → Element → α → Prop)
    (read : Option α → Option α → List Element → Except ε (Option α × Option α)) : Prop where
  nil (first second : Option α) : read first second [] = .ok (first, second)
  cons_iff {first second : Option α} {element : Element} {rest : List Element}
    {found : Option α × Option α} (wasRead : element.WasRead) :
    read first second (element :: rest) = .ok found ↔
      (∃ value, IsField 0 element value ∧ (first = none ∧ second = none) ∧
        read (some value) second rest = .ok found) ∨
      (∃ value, IsField 1 element value ∧ second = none ∧
        read first (some value) rest = .ok found)

/-- A choice between the fields of two slots succeeds in the slot that the tag has. -/
theorem slots_eq_ok_iff {ε α β : Type} {zero one : Except ε α} {nextZero nextOne : α → Except ε β}
    {fault : ε} {freeZero freeOne : Prop} [Decidable freeZero] [Decidable freeOne] {found : β} :
    (if slot = 0 ∧ freeZero then zero >>= nextZero
      else if slot = 1 ∧ freeOne then one >>= nextOne else throw fault) = .ok found ↔
      (∃ value, (slot = 0 ∧ zero = .ok value) ∧ freeZero ∧ nextZero value = .ok found) ∨
      (∃ value, (slot = 1 ∧ one = .ok value) ∧ freeOne ∧ nextOne value = .ok found) := by
  by_cases isZero : slot = 0 ∧ freeZero
  · obtain ⟨rfl, free⟩ := isZero
    rw [if_pos ⟨rfl, free⟩, Except.bind_eq_ok_iff]
    constructor
    · rintro ⟨value, here, rest⟩
      exact .inl ⟨value, ⟨rfl, here⟩, free, rest⟩
    · rintro (⟨value, ⟨-, here⟩, -, rest⟩ | ⟨_, ⟨⟨⟩, _⟩, _⟩)
      exact ⟨value, here, rest⟩
  · rw [if_neg isZero]
    by_cases isOne : slot = 1 ∧ freeOne
    · obtain ⟨rfl, free⟩ := isOne
      rw [if_pos ⟨rfl, free⟩, Except.bind_eq_ok_iff]
      constructor
      · rintro ⟨value, here, rest⟩
        exact .inr ⟨value, ⟨rfl, here⟩, free, rest⟩
      · rintro (⟨_, ⟨⟨⟩, _⟩, _⟩ | ⟨value, ⟨-, here⟩, -, rest⟩)
        exact ⟨value, here, rest⟩
    · rw [if_neg isOne]
      constructor
      · nofun
      · rintro (⟨_, ⟨same, -⟩, free, -⟩ | ⟨_, ⟨same, -⟩, free, -⟩)
        · exact absurd ⟨same, free⟩ isZero
        · exact absurd ⟨same, free⟩ isOne

namespace ReadsTwo

variable {ε α : Type} {IsField : UInt8 → Element → α → Prop}
  {read : Option α → Option α → List Element → Except ε (Option α × Option α)}
  {first second : Option α} {value : α} {found : Option α × Option α}

/-- Nothing comes after the second field. -/
theorem after_second (reads : ReadsTwo IsField read)
    (wasRead : ∀ element ∈ elements, element.WasRead) :
    read first (some value) elements = .ok found ↔
      elements = [] ∧ found = (first, some value) := by
  cases elements with
  | nil =>
    rw [reads.nil, Except.ok.injEq]
    exact ⟨fun same => ⟨rfl, same.symm⟩, fun same => same.2.symm⟩
  | cons element rest =>
    rw [reads.cons_iff (wasRead element List.mem_cons_self)]
    constructor
    · rintro (⟨_, _, ⟨_, ⟨⟩⟩, _⟩ | ⟨_, _, ⟨⟩, _⟩)
    · rintro ⟨⟨⟩, _⟩

/-- Only the second field comes after the first one. -/
theorem after_first (reads : ReadsTwo IsField read)
    (wasRead : ∀ element ∈ elements, element.WasRead) :
    read (some value) none elements = .ok found ↔
      ∃ second, List.Forall₂ (IsField 1) elements second.toList ∧
        found = (some value, second) := by
  cases elements with
  | nil =>
    rw [reads.nil, Except.ok.injEq]
    constructor
    · rintro rfl
      exact ⟨none, .nil, rfl⟩
    · rintro ⟨second, absent, rfl⟩
      cases second with
      | none => rfl
      | some _ => cases absent
  | cons element rest =>
    obtain ⟨here, others⟩ := List.forall_mem_cons.1 wasRead
    rw [reads.cons_iff here]
    constructor
    · rintro (⟨_, _, ⟨⟨⟩, _⟩, _⟩ | ⟨other, field, _, read⟩)
      obtain ⟨rfl, rfl⟩ := (reads.after_second others).1 read
      exact ⟨some other, .cons field .nil, rfl⟩
    · rintro ⟨second, fields, rfl⟩
      cases second with
      | none => cases fields
      | some other =>
        cases fields with
        | cons field none =>
          cases none
          exact .inr ⟨other, field, rfl, reads.nil _ _⟩

/-- **Two fields that may be absent are read from the elements of the first and then those of the
second,** of which there is one at most. -/
theorem read_eq_ok_iff (reads : ReadsTwo IsField read)
    (wasRead : ∀ element ∈ elements, element.WasRead) :
    read none none elements = .ok (first, second) ↔
      ∃ front back, elements = front ++ back ∧ List.Forall₂ (IsField 0) front first.toList ∧
        List.Forall₂ (IsField 1) back second.toList := by
  constructor
  · intro found
    cases elements with
    | nil =>
      rw [reads.nil] at found
      cases found
      exact ⟨[], [], rfl, .nil, .nil⟩
    | cons element rest =>
      obtain ⟨here, others⟩ := List.forall_mem_cons.1 wasRead
      rcases (reads.cons_iff here).1 found with ⟨value, field, _, found⟩ | ⟨value, field, _, found⟩
      · obtain ⟨other, fields, same⟩ := (reads.after_first others).1 found
        cases same
        exact ⟨[element], rest, rfl, .cons field .nil, fields⟩
      · obtain ⟨rfl, same⟩ := (reads.after_second others).1 found
        cases same
        exact ⟨[], [element], rfl, .nil, .cons field .nil⟩
  · rintro ⟨front, back, rfl, firsts, seconds⟩
    cases first with
    | some value =>
      cases firsts with
      | cons field none =>
        cases none
        obtain ⟨here, others⟩ := List.forall_mem_cons.1 wasRead
        refine (reads.cons_iff here).2 (.inl ⟨value, field, ⟨rfl, rfl⟩, ?_⟩)
        exact (reads.after_first others).2 ⟨second, seconds, rfl⟩
    | none =>
      cases firsts
      cases second with
      | none =>
        cases seconds
        exact reads.nil none none
      | some value =>
        cases seconds with
        | cons field none =>
          cases none
          have here := wasRead _ (List.mem_singleton_self _)
          exact (reads.cons_iff here).2 (.inr ⟨value, field, rfl, reads.nil _ _⟩)

end ReadsTwo

end X509.Element
