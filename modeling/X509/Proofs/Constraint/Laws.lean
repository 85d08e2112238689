/-
**What every comparison of names obeys.**

The forms of names are compared in the same way: a key tells which names are the same, a test tells
which one contains which, and the relation follows. The laws of the relation need little of the
test. It may look at keys only, and two names that contain each other must have one key.

* `NameRelation.Lawful` — the relation of a name to itself, in the other order, and of same names.
* `NameRelation.lawful_between` — what a key and a containment give is lawful.
* `NameRelation.between_narrows_trans` — if containment is transitive, so is narrowing.
* `NameRelation.means_between` — what the relation says, once key and containment are understood.
-/

import X509.Constraint.Relation

namespace X509.NameRelation

/-! ### Three facts and their relation -/

section Containment

variable {same first second : Bool}

theorem ofContainment_eq_same_iff : ofContainment same first second = .same ↔ same = true := by
  cases same <;> cases first <;> cases second <;> decide

theorem ofContainment_eq_narrows_iff :
    ofContainment same first second = .narrows ↔ same = false ∧ first = true := by
  cases same <;> cases first <;> cases second <;> decide

theorem ofContainment_ne_differentType :
    ofContainment same first second ≠ .differentType := by
  cases same <;> cases first <;> cases second <;> decide

/-- If only same names contain each other, no containment hides another. -/
theorem converse_ofContainment (antisymm : first = true → second = true → same = true) :
    (ofContainment same first second).converse = ofContainment same second first := by
  cases same with
  | true => rfl
  | false =>
    cases first with
    | false => cases second <;> rfl
    | true =>
      cases second with
      | false => rfl
      | true => exact absurd (antisymm rfl rfl) Bool.false_ne_true

end Containment

theorem converse_eq_iff {relation other : NameRelation} :
    relation.converse = other ↔ relation = other.converse := by
  constructor
  · intro turned
    rw [← turned, converse_converse]
  · intro turned
    rw [turned, converse_converse]

/-! ### Laws -/

variable {α κ : Type}

/-- **The laws of a comparison.** Same names are interchangeable. -/
structure Lawful (relation : α → α → NameRelation) : Prop where
  self (one : α) : relation one one = .same
  converse (one two : α) : (relation one two).converse = relation two one
  congr {one two : α} (same : relation one two = .same) (three : α) :
    relation one three = relation two three

/-- Names may carry more than what is compared. -/
theorem Lawful.comap {β : Type} {relation : α → α → NameRelation} (lawful : Lawful relation)
    (part : β → α) : Lawful fun one two => relation (part one) (part two) where
  self one := lawful.self (part one)
  converse one two := lawful.converse (part one) (part two)
  congr same three := lawful.congr same (part three)

/-- The relation of two names by their keys and a containment. -/
def between [BEq κ] (key : α → κ) (contains : α → α → Bool) (one two : α) : NameRelation :=
  ofContainment (key one == key two) (contains one two) (contains two one)

/-- **A containment of names that have keys.** It cannot tell names of one key apart, and names that
contain each other are names of one key. -/
structure IsContainment (key : α → κ) (contains : α → α → Bool) : Prop where
  antisymm {one two : α} (outer : contains one two = true) (inner : contains two one = true) :
    key one = key two
  congr {one one' two two' : α} (outer : key one = key one') (inner : key two = key two') :
    contains one two = contains one' two'

section Between

variable [BEq κ] [LawfulBEq κ] {key : α → κ} {contains : α → α → Bool}

theorem between_eq_same_iff {one two : α} :
    between key contains one two = .same ↔ key one = key two := by
  rw [between, ofContainment_eq_same_iff, beq_iff_eq]

theorem between_eq_narrows_iff {one two : α} :
    between key contains one two = .narrows ↔ key one ≠ key two ∧ contains one two = true := by
  rw [between, ofContainment_eq_narrows_iff, beq_eq_false_iff_ne]

/-- **What a key and a containment give is lawful.** -/
theorem lawful_between (containment : IsContainment key contains) :
    Lawful (between key contains) where
  self one := between_eq_same_iff.2 rfl
  converse one two := by
    have turned : (key two == key one) = (key one == key two) := BEq.comm
    rw [between, between, turned]
    refine converse_ofContainment fun outer inner => ?_
    exact beq_iff_eq.2 (containment.antisymm outer inner)
  congr {one two} same three := by
    have keys := between_eq_same_iff.1 same
    rw [between, between, keys, containment.congr keys rfl, containment.congr rfl keys]

/-- **If containment is transitive, so is narrowing.** Were the ends the same, the name between them
would contain the outer one and be contained in it. -/
theorem between_narrows_trans (containment : IsContainment key contains)
    (trans : ∀ {one two three : α}, contains one two = true → contains two three = true →
      contains one three = true)
    {one two three : α} (outer : between key contains one two = .narrows)
    (inner : between key contains two three = .narrows) :
    between key contains one three = .narrows := by
  rw [between_eq_narrows_iff] at outer inner ⊢
  obtain ⟨differs, outer⟩ := outer
  obtain ⟨-, inner⟩ := inner
  refine ⟨fun ends => ?_, trans outer inner⟩
  have back : contains two one = true := by rw [containment.congr rfl ends, inner]
  exact differs (containment.antisymm outer back)

theorem between_eq_widens_iff (containment : IsContainment key contains) {one two : α} :
    between key contains one two = .widens ↔ key two ≠ key one ∧ contains two one = true := by
  rw [← between_eq_narrows_iff, ← (lawful_between containment).converse, converse_eq_iff]
  rfl

/-! ### What a relation says -/

/-- **A relation by what it says of two names:** that they are the same, that the second lies inside
the subtree of the first, or the first inside that of the second, or nothing of this. -/
structure Means (relation : NameRelation) (same inside outside : Prop) : Prop where
  same_iff : relation = .same ↔ same
  narrows_iff : relation = .narrows ↔ inside
  widens_iff : relation = .widens ↔ outside
  sameType_iff : relation = .sameType ↔ ¬same ∧ ¬inside ∧ ¬outside

/-- **What a key and a containment say is what the relation says.** -/
theorem means_between (containment : IsContainment key contains) {one two : α}
    {same inside outside : Prop} (keys : key one = key two ↔ same)
    (inner : key one ≠ key two ∧ contains one two = true ↔ inside)
    (outer : key two ≠ key one ∧ contains two one = true ↔ outside) :
    Means (between key contains one two) same inside outside := by
  rw [← between_eq_same_iff] at keys
  rw [← between_eq_narrows_iff] at inner
  rw [← between_eq_widens_iff containment] at outer
  refine ⟨keys, inner, outer, ?_⟩
  rw [← keys, ← inner, ← outer]
  have form : between key contains one two ≠ .differentType := ofContainment_ne_differentType
  cases related : between key contains one two <;> simp_all

end Between

end X509.NameRelation
