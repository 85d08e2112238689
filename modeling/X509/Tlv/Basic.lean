/-
**Encoded values: tag, length, contents.**

An encoded value is a leaf with data octets or a node whose contents are encoded values again. A
node keeps the length it was read with, and is written with it; the length of a leaf is that of its
data.

* `Tlv.write`, `Tlv.writeAll` — the octets of one value and of several in a row.
* `Tlv.encodedLength` — the number of octets of a value, counted from its announced length.
-/

import X509.Tlv.Tag
import X509.Tlv.Length

namespace X509

/-- An encoded value. -/
inductive Tlv where
  /-- Contents that are plain data. -/
  | leaf (tag : Tag) (data : Octets)
  /-- Contents that are encoded values, and the length they were announced with. -/
  | node (tag : Tag) (length : Nat) (children : List Tlv)
deriving Repr, Inhabited

namespace Tlv

mutual

/-- Equality of encoded values is decidable. -/
def decEq : (one two : Tlv) → Decidable (one = two)
  | .leaf tag data, .leaf tag' data' =>
    if same : tag = tag' ∧ (data == data') = true then
      .isTrue (by rw [same.1, eq_of_beq same.2])
    else
      .isFalse fun equal => by
        injection equal with tags octets
        exact same ⟨tags, by rw [octets]; exact beq_self_eq_true _⟩
  | .node tag length children, .node tag' length' children' =>
    match decEqAll children children' with
    | .isTrue alike =>
      if same : tag = tag' ∧ length = length' then
        .isTrue (by rw [same.1, same.2, alike])
      else
        .isFalse fun equal => by
          injection equal with tags lengths
          exact same ⟨tags, lengths⟩
    | .isFalse differ => .isFalse fun equal => by
        injection equal with _ _ lists
        exact differ lists
  | .leaf .., .node .. => .isFalse (by simp)
  | .node .., .leaf .. => .isFalse (by simp)

/-- Equality of lists of encoded values is decidable. -/
def decEqAll : (one two : List Tlv) → Decidable (one = two)
  | [], [] => .isTrue rfl
  | [], _ :: _ => .isFalse (by simp)
  | _ :: _, [] => .isFalse (by simp)
  | first :: rest, first' :: rest' =>
    match decEq first first' with
    | .isFalse differ => .isFalse fun equal => differ (List.cons.inj equal).1
    | .isTrue alike =>
      match decEqAll rest rest' with
      | .isFalse differ => .isFalse fun equal => differ (List.cons.inj equal).2
      | .isTrue rests => .isTrue (by rw [alike, rests])

end

instance : DecidableEq Tlv := decEq

/-! ### Parts -/

/-- The tag. -/
def tag : Tlv → Tag
  | .leaf tag _ => tag
  | .node tag _ _ => tag

/-- The announced number of contents octets. -/
def length : Tlv → Nat
  | .leaf _ data => data.length
  | .node _ length _ => length

/-- The data of a leaf. -/
def data? : Tlv → Option Octets
  | .leaf _ data => some data
  | .node .. => none

/-- The values inside a node. -/
def children? : Tlv → Option (List Tlv)
  | .leaf .. => none
  | .node _ _ children => some children

/-- The number of octets of a value whose contents have the announced length. -/
def encodedLength (tlv : Tlv) : Nat :=
  1 + Length.size tlv.length + tlv.length

/-- The number of octets of some values, one after the other. -/
def encodedLengthAll : List Tlv → Nat
  | [] => 0
  | tlv :: rest => encodedLength tlv + encodedLengthAll rest

/-- The node with these values inside, announced with the length they have. -/
def ofChildren (tag : Tag) (children : List Tlv) : Tlv :=
  .node tag (encodedLengthAll children) children

/-! ### Writing -/

mutual

/-- The octets of a value: identifier, announced length, contents. -/
def write : Tlv → Octets
  | .leaf tag data => tag.toOctet :: (Length.write data.length ++ data)
  | .node tag length children => tag.toOctet :: (Length.write length ++ writeAll children)

/-- The octets of some values, one after the other. -/
def writeAll : List Tlv → Octets
  | [] => []
  | tlv :: tlvs => write tlv ++ writeAll tlvs

end

/-- The contents octets, of a leaf and of a node alike. -/
def contents : Tlv → Octets
  | .leaf _ data => data
  | .node _ _ children => writeAll children

theorem write_eq (tlv : Tlv) :
    tlv.write = tlv.tag.toOctet :: (Length.write tlv.length ++ tlv.contents) := by
  cases tlv <;> rfl

theorem writeAll_append (first second : List Tlv) :
    writeAll (first ++ second) = writeAll first ++ writeAll second := by
  induction first with
  | nil => rfl
  | cons tlv tlvs ih => simp only [List.cons_append, writeAll, ih, List.append_assoc]

end Tlv

end X509
