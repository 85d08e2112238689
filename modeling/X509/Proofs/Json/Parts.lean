/-
**Object identifiers and directory strings inside values.**

Names, general names and the contents of extensions hold object identifiers and directory strings
at every depth. `Parts` says for a type which ones a value holds and what the value is when its
strings are changed and nothing else is. One law ties the two: a change that leaves each string of
a value alone leaves the value alone.

* `Parts.HasTwoArcs` — the object identifiers of a value have two arcs at least.
* `Parts.asUtf8` — a value with each of its strings as UTF-8.
* `Parts.asUtf8_of_utf8` — it is the value itself if all its strings are UTF-8.
-/

import X509.Access.Description
import X509.Constraint.Subtree
import X509.Extension.Envelope
import X509.Key.PublicKeyInfo
import X509.Policy.Mapping
import X509.Revocation.DistributionPoint

namespace X509

/-- The text of a directory string as UTF-8. -/
def DirectoryString.asUtf8 (string : DirectoryString) : DirectoryString :=
  .utf8 string.text

/-- A type whose values hold object identifiers and directory strings. -/
class Parts (α : Type) where
  /-- The object identifiers of a value. -/
  oids : α → List ObjectIdentifier
  /-- The directory strings of a value. -/
  strings : α → List DirectoryString
  /-- A value with each of its strings changed, and everything else kept. -/
  mapStrings : (DirectoryString → DirectoryString) → α → α
  mapStrings_of_fixed {f : DirectoryString → DirectoryString} {value : α}
    (fixed : ∀ string ∈ strings value, f string = string) : mapStrings f value = value

namespace Parts

section Values

variable {α : Type} [Parts α] {value : α}

/-- Every object identifier of a value has two arcs at least. -/
def HasTwoArcs (value : α) : Prop :=
  ∀ oid ∈ oids value, 2 ≤ oid.arcs.length

/-- Every directory string of a value is UTF-8. -/
def IsUtf8 (value : α) : Prop :=
  ∀ string ∈ strings value, string.kind = .utf8

instance : Decidable (HasTwoArcs value) :=
  inferInstanceAs (Decidable (∀ oid ∈ oids value, 2 ≤ oid.arcs.length))

instance : Decidable (IsUtf8 value) :=
  inferInstanceAs (Decidable (∀ string ∈ strings value, string.kind = .utf8))

/-- A value with each of its directory strings as UTF-8. -/
def asUtf8 (value : α) : α :=
  mapStrings DirectoryString.asUtf8 value

theorem asUtf8_of_utf8 (utf8 : IsUtf8 value) : asUtf8 value = value := by
  refine mapStrings_of_fixed fun string member => ?_
  rw [DirectoryString.asUtf8, DirectoryString.utf8, ← utf8 string member]

end Values

/-! ### Strings, lists and absent values -/

instance : Parts DirectoryString where
  oids _ := []
  strings string := [string]
  mapStrings f string := f string
  mapStrings_of_fixed fixed := fixed _ List.mem_cons_self

section Containers

variable {α : Type} [Parts α]

instance : Parts (List α) where
  oids values := values.flatMap oids
  strings values := values.flatMap strings
  mapStrings f values := values.map (mapStrings f)
  mapStrings_of_fixed {f values} fixed := by
    have kept : ∀ value ∈ values, mapStrings f value = id value := by
      refine fun value member => mapStrings_of_fixed fun string inside => ?_
      exact fixed string (List.mem_flatMap.2 ⟨value, member, inside⟩)
    rw [List.map_congr_left kept, List.map_id]

instance : Parts (Option α) where
  oids value := value.elim [] oids
  strings value := value.elim [] strings
  mapStrings f value := value.map (mapStrings f)
  mapStrings_of_fixed {f value} fixed := by
    cases value with
    | none => rfl
    | some value => exact congrArg some (mapStrings_of_fixed fixed)

end Containers

/-! ### Names -/

instance : Parts AttributeValue where
  oids _ := []
  strings
    | .text string => [string]
    | .encoded _ => []
  mapStrings f
    | .text string => .text (f string)
    | .encoded octets => .encoded octets
  mapStrings_of_fixed {f value} fixed := by
    cases value with
    | text string => exact congrArg AttributeValue.text (fixed string List.mem_cons_self)
    | encoded octets => rfl

instance : Parts Attribute where
  oids attr := attr.type :: oids attr.value
  strings attr := strings attr.value
  mapStrings f attr := { attr with value := mapStrings f attr.value }
  mapStrings_of_fixed fixed := by rw [mapStrings_of_fixed fixed]

instance : Parts RelativeName where
  oids relative := oids relative.attributes
  strings relative := strings relative.attributes
  mapStrings f relative := ⟨mapStrings f relative.attributes⟩
  mapStrings_of_fixed fixed := by rw [mapStrings_of_fixed fixed]

instance : Parts Name where
  oids name := oids name.levels
  strings name := strings name.levels
  mapStrings f name := ⟨mapStrings f name.levels⟩
  mapStrings_of_fixed fixed := by rw [mapStrings_of_fixed fixed]

/-! ### General names -/

instance : Parts OtherName where
  oids name := [name.typeId]
  strings _ := []
  mapStrings _ name := name
  mapStrings_of_fixed _ := rfl

instance : Parts EdiPartyName where
  oids name := oids name.nameAssigner ++ oids name.partyName
  strings name := strings name.nameAssigner ++ strings name.partyName
  mapStrings f name := ⟨mapStrings f name.nameAssigner, mapStrings f name.partyName⟩
  mapStrings_of_fixed fixed := by
    obtain ⟨assigner, party⟩ := List.forall_mem_append.1 fixed
    rw [mapStrings_of_fixed assigner, mapStrings_of_fixed party]

instance : Parts GeneralName where
  oids
    | .otherName name => oids name
    | .directoryName name => oids name
    | .ediPartyName name => oids name
    | .registeredId oid => [oid]
    | _ => []
  strings
    | .directoryName name => strings name
    | .ediPartyName name => strings name
    | _ => []
  mapStrings f
    | .directoryName name => .directoryName (mapStrings f name)
    | .ediPartyName name => .ediPartyName (mapStrings f name)
    | name => name
  mapStrings_of_fixed {f name} fixed := by
    cases name with
    | directoryName name => exact congrArg GeneralName.directoryName (mapStrings_of_fixed fixed)
    | ediPartyName name => exact congrArg GeneralName.ediPartyName (mapStrings_of_fixed fixed)
    | _ => rfl

instance : Parts GeneralNames where
  oids names := oids names.names
  strings names := strings names.names
  mapStrings f names := ⟨mapStrings f names.names⟩
  mapStrings_of_fixed fixed := by rw [mapStrings_of_fixed fixed]

/-! ### Name constraints -/

instance : Parts GeneralSubtree where
  oids subtree := oids subtree.base
  strings subtree := strings subtree.base
  mapStrings f subtree := { subtree with base := mapStrings f subtree.base }
  mapStrings_of_fixed fixed := by rw [mapStrings_of_fixed fixed]

instance : Parts GeneralSubtrees where
  oids list := oids list.subtrees
  strings list := strings list.subtrees
  mapStrings f list := ⟨mapStrings f list.subtrees⟩
  mapStrings_of_fixed fixed := by rw [mapStrings_of_fixed fixed]

instance : Parts NameConstraints where
  oids constraints := oids constraints.permitted ++ oids constraints.excluded
  strings constraints := strings constraints.permitted ++ strings constraints.excluded
  mapStrings f constraints :=
    ⟨mapStrings f constraints.permitted, mapStrings f constraints.excluded⟩
  mapStrings_of_fixed fixed := by
    obtain ⟨permitted, excluded⟩ := List.forall_mem_append.1 fixed
    rw [mapStrings_of_fixed permitted, mapStrings_of_fixed excluded]

/-! ### Revocation -/

instance : Parts DistributionPointName where
  oids
    | .fullName names => oids names
    | .relativeName relative => oids relative
  strings
    | .fullName names => strings names
    | .relativeName relative => strings relative
  mapStrings f
    | .fullName names => .fullName (mapStrings f names)
    | .relativeName relative => .relativeName (mapStrings f relative)
  mapStrings_of_fixed {f name} fixed := by
    cases name with
    | fullName names => exact congrArg DistributionPointName.fullName (mapStrings_of_fixed fixed)
    | relativeName relative =>
      exact congrArg DistributionPointName.relativeName (mapStrings_of_fixed fixed)

instance : Parts DistributionPoint where
  oids point := oids point.name ++ oids point.issuer
  strings point := strings point.name ++ strings point.issuer
  mapStrings f point :=
    { point with name := mapStrings f point.name, issuer := mapStrings f point.issuer }
  mapStrings_of_fixed fixed := by
    obtain ⟨name, issuer⟩ := List.forall_mem_append.1 fixed
    rw [mapStrings_of_fixed name, mapStrings_of_fixed issuer]

/-! ### Policies, access, extensions and keys -/

instance : Parts PolicyMapping where
  oids mapping := [mapping.issuer.oid, mapping.subject.oid]
  strings _ := []
  mapStrings _ mapping := mapping
  mapStrings_of_fixed _ := rfl

instance : Parts AccessDescription where
  oids access := access.method :: oids access.location
  strings access := strings access.location
  mapStrings f access := { access with location := mapStrings f access.location }
  mapStrings_of_fixed fixed := by rw [mapStrings_of_fixed fixed]

instance : Parts Envelope where
  oids envelope := [envelope.oid]
  strings _ := []
  mapStrings _ envelope := envelope
  mapStrings_of_fixed _ := rfl

instance : Parts KeyIdentifier where
  oids _ := []
  strings _ := []
  mapStrings _ identifier := identifier
  mapStrings_of_fixed _ := rfl

end Parts

end X509
