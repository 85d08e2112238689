/-
**How one name relates to the subtree under another.**

* `NameRelation.converse_converse` — turning a relation round twice changes nothing.
-/

namespace X509

/-- How a second name relates to the subtree rooted at a first one. -/
inductive NameRelation where
  /-- The names are of different forms. -/
  | differentType
  /-- The names are the same. -/
  | same
  /-- The second name lies inside the subtree of the first. -/
  | narrows
  /-- The first name lies inside the subtree of the second. -/
  | widens
  /-- The names are of one form, and neither lies inside the subtree of the other. -/
  | sameType
deriving DecidableEq, Repr, Inhabited

namespace NameRelation

/-- The number of a relation. -/
def code : NameRelation → Int
  | .differentType => -1
  | .same => 0
  | .narrows => 1
  | .widens => 2
  | .sameType => 3

/-- The relation of the same names in the other order. -/
def converse : NameRelation → NameRelation
  | .narrows => .widens
  | .widens => .narrows
  | other => other

theorem converse_converse (relation : NameRelation) : relation.converse.converse = relation := by
  cases relation <;> rfl

/-- The relation between two names of one form, of which it is known whether they are the same and
whether either contains the other. -/
def ofContainment (same firstContains secondContains : Bool) : NameRelation :=
  if same then .same
  else if firstContains then .narrows
  else if secondContains then .widens
  else .sameType

end NameRelation

end X509
