/-
**JSON forms read back up to the kinds of strings.**

A directory string is written as its text alone and comes back as UTF-8. Everything else comes back
as it was, as far as object identifiers have the two arcs that reading asks for: a form never reads
as another alternative, and no form but that of an absent value is `null`.

* `Json.Recovers` — what a form gives back; `Recovers.list`, `Recovers.option` and `Recovers.field`
  carry it over to lists, to values that may be absent and to records with one field.
* `Json.RoundTrip` — the same, and nothing is lost from a value whose strings are UTF-8.
* `Name.canonicalEq_asUtf8` — the kinds of its strings do not show in the canonical form of a name.
-/

import X509.Json.Contents
import X509.Name.Canonical
import X509.Proofs.Address.ReadsBack
import X509.Proofs.Json.Parts
import X509.Proofs.Value.DottedText

namespace X509

open Parts (HasTwoArcs IsUtf8 asUtf8)

namespace Json

section Forms

variable {α : Type} [Parts α] {toJson : α → Json} {ofJson? : Json → Option α}

/-- **A form gives back the value with its strings as UTF-8,** if its object identifiers have two
arcs at least. -/
def Recovers (toJson : α → Json) (ofJson? : Json → Option α) : Prop :=
  ∀ value, HasTwoArcs value → ofJson? (toJson value) = some (asUtf8 value)

/-- What is lost on the way to a form and back: the kinds of the strings, and nothing else. -/
structure RoundTrip (toJson : α → Json) (ofJson? : Json → Option α) : Prop where
  upToKinds : Recovers toJson ofJson?
  exactly : ∀ value, HasTwoArcs value → IsUtf8 value → ofJson? (toJson value) = some value

theorem Recovers.roundTrip (recovers : Recovers toJson ofJson?) : RoundTrip toJson ofJson? where
  upToKinds := recovers
  exactly value arcs utf8 := by rw [recovers value arcs, Parts.asUtf8_of_utf8 utf8]

theorem Recovers.list (recovers : Recovers toJson ofJson?) :
    Recovers (list toJson) (list? ofJson?) := by
  intro values arcs
  refine list?_list_map (f := asUtf8) fun value member => recovers value fun oid inside => ?_
  exact arcs oid (List.mem_flatMap.2 ⟨value, member, inside⟩)

theorem Recovers.option (recovers : Recovers toJson ofJson?)
    (filled : ∀ value, toJson value ≠ .null) : Recovers (option toJson) (option? ofJson?) := by
  intro value arcs
  refine option?_option_map (f := asUtf8) (fun present here => recovers present ?_) filled
  rw [Option.mem_def.1 here] at arcs
  exact arcs

/-- A record with one field gives back what its field does. -/
theorem Recovers.field {β : Type} [Parts β] {content : β → α} {make : α → β}
    (recovers : Recovers toJson ofJson?) (name : String)
    (inside : ∀ record, Parts.oids record = Parts.oids (content record))
    (changed : ∀ record, asUtf8 record = make (asUtf8 (content record))) :
    Recovers (fun record => .object [(name, toJson (content record))]) (fun json => do
      let field ← json.field1? name
      let value ← required? ofJson? field
      pure (make value)) := by
  intro record arcs
  have value := recovers (content record) fun oid member => arcs oid (inside record ▸ member)
  simp only [field1?_object, required?, Option.bind_eq_bind, Option.bind_some, value, changed]
  rfl

end Forms

end Json

/-! ### Plain values -/

theorem ObjectIdentifier.ofJson?_toJson {oid : ObjectIdentifier} (two : 2 ≤ oid.arcs.length) :
    ofJson? oid.toJson = some oid := by
  simp only [ofJson?, toJson, Json.string?, Option.bind_some, ofText_toText two]
  rfl

theorem GeneralSubtree.boundOfJson?_nat (bound : UInt32) :
    boundOfJson? (.nat bound.toNat) = some bound := by
  rw [boundOfJson?, Json.natBelow?_nat bound.toNat_lt]
  exact congrArg some UInt32.ofNat_toNat

/-- The flags come back one by one, found by their names. -/
theorem ReasonFlags.ofJson?_toJson (flags : ReasonFlags) : ofJson? flags.toJson = some flags := by
  have names : (fieldNames.zip (flags.toBits.drop 1 |>.map Json.bool)).map Prod.fst =
      fieldNames := rfl
  have fields := Json.fields?_object (names ▸ (by decide : fieldNames.Nodup))
  rw [names] at fields
  rw [ofJson?, toJson, fields]
  rfl

theorem AddressRange.ofJson?_toJson (range : AddressRange) :
    ofJson? range.toJson = some range := by
  cases range with
  | address single =>
    exact congrArg (Option.map AddressRange.address) (IpAddress.ofText?_toText single)
  | network range =>
    exact congrArg (Option.map AddressRange.network) (IpNetwork.ofText?_toText range)

/-! ### Names -/

theorem DirectoryString.recovers : Json.Recovers toJson ofJson? :=
  fun _ _ => rfl

theorem AttributeValue.recovers : Json.Recovers toJson ofJson? := by
  intro value _
  cases value with
  | text string => rfl
  | encoded octets =>
    exact congrArg (Option.map AttributeValue.encoded) (Json.octets?_octets octets)

theorem Attribute.recovers : Json.Recovers toJson ofJson? := by
  intro attr arcs
  have type := ObjectIdentifier.ofJson?_toJson (arcs attr.type List.mem_cons_self)
  have value := AttributeValue.recovers attr.value nofun
  rw [ofJson?, toJson, Json.fields2?_object (by decide)]
  simp only [Json.required?, Option.bind_eq_bind, Option.bind_some, type, value]
  rfl

theorem RelativeName.recovers : Json.Recovers toJson ofJson? :=
  Attribute.recovers.list.field "attributes" (fun _ => rfl) fun _ => rfl

theorem Name.recovers : Json.Recovers toJson ofJson? :=
  RelativeName.recovers.list.field "rdn_sequence" (fun _ => rfl) fun _ => rfl

/-! ### The canonical form -/

theorem Attribute.canonical_asUtf8 (attr : Attribute) :
    (asUtf8 attr).canonical = attr.canonical := by
  obtain ⟨type, value⟩ := attr
  cases value <;> rfl

/-- The order of the attributes of a level does not depend on the kinds of strings either. -/
theorem RelativeName.canonical_asUtf8 (relative : RelativeName) :
    (asUtf8 relative).canonical = relative.canonical := by
  have order : ∀ one ∈ relative.attributes, ∀ two ∈ relative.attributes,
      (one.canonicalCompare two).isLE = ((asUtf8 one).canonicalCompare (asUtf8 two)).isLE := by
    intro one _ two _
    rw [Attribute.canonicalCompare, Attribute.canonicalCompare, Attribute.canonical_asUtf8,
      Attribute.canonical_asUtf8]
    rfl
  have sorted : (asUtf8 relative).canonicalAttributes =
      relative.canonicalAttributes.map asUtf8 := (List.map_mergeSort order).symm
  have forms : Attribute.canonical ∘ asUtf8 = Attribute.canonical :=
    funext Attribute.canonical_asUtf8
  rw [canonical, canonical, sorted, List.map_map, forms]

/-- **A name whose strings become UTF-8 agrees with itself as it was.** -/
theorem Name.canonicalEq_asUtf8 (name : Name) : name.canonicalEq (asUtf8 name) = true := by
  have forms : RelativeName.canonical ∘ asUtf8 = RelativeName.canonical :=
    funext RelativeName.canonical_asUtf8
  have levels : (asUtf8 name).canonicalLevels = name.levels.map (RelativeName.canonical ∘ asUtf8) :=
    List.map_map
  rw [canonicalEq_iff, levels, forms, canonicalLevels]

/-! ### General names -/

theorem OtherName.recovers : Json.Recovers toJson ofJson? := by
  intro name arcs
  have typeId := ObjectIdentifier.ofJson?_toJson (arcs name.typeId List.mem_cons_self)
  have value := Json.octets?_octets name.value
  rw [ofJson?, toJson, Json.fields2?_object (by decide)]
  simp only [Json.required?, Option.bind_eq_bind, Option.bind_some, typeId, value]
  rfl

theorem EdiPartyName.recovers : Json.Recovers toJson ofJson? := by
  intro name arcs
  obtain ⟨first, second⟩ := List.forall_mem_append.1 arcs
  have assigner := DirectoryString.recovers.option nofun name.nameAssigner first
  have party := DirectoryString.recovers name.partyName second
  rw [ofJson?, toJson, Json.fields2?_object (by decide)]
  simp only [Json.required?, Json.optional?, Option.bind_eq_bind, Option.bind_some, assigner, party]
  rfl

theorem GeneralName.recovers : Json.Recovers toJson ofJson? := by
  intro name arcs
  cases name with
  | otherName name => exact congrArg (Option.map otherName) (OtherName.recovers name arcs)
  | rfc822Name mailbox => rfl
  | dnsName domain => rfl
  | x400Address octets => exact congrArg (Option.map x400Address) (Json.octets?_octets octets)
  | directoryName name => exact congrArg (Option.map directoryName) (Name.recovers name arcs)
  | ediPartyName name => exact congrArg (Option.map ediPartyName) (EdiPartyName.recovers name arcs)
  | uri text => rfl
  | ipAddress range => exact congrArg (Option.map ipAddress) range.ofJson?_toJson
  | registeredId oid =>
    have two := arcs oid List.mem_cons_self
    exact congrArg (Option.map registeredId) (ObjectIdentifier.ofJson?_toJson two)

theorem GeneralNames.recovers : Json.Recovers toJson ofJson? :=
  GeneralName.recovers.list.field "names" (fun _ => rfl) fun _ => rfl

/-! ### Name constraints -/

theorem GeneralSubtree.recovers : Json.Recovers toJson ofJson? := by
  intro subtree arcs
  have base := GeneralName.recovers subtree.base arcs
  have minimum := boundOfJson?_nat subtree.minimum
  have maximum := Json.option?_option boundOfJson?_nat nofun subtree.maximum
  rw [ofJson?, toJson, Json.fields3?_object (by decide)]
  simp only [Json.required?, Json.optional?, Option.bind_eq_bind, Option.bind_some, base, minimum,
    maximum]
  rfl

theorem GeneralSubtrees.recovers : Json.Recovers toJson ofJson? :=
  GeneralSubtree.recovers.list.field "subtrees" (fun _ => rfl) fun _ => rfl

theorem NameConstraints.recovers : Json.Recovers toJson ofJson? := by
  intro constraints arcs
  obtain ⟨first, second⟩ := List.forall_mem_append.1 arcs
  have permitted := GeneralSubtrees.recovers.option nofun constraints.permitted first
  have excluded := GeneralSubtrees.recovers.option nofun constraints.excluded second
  rw [ofJson?, toJson, Json.fields2?_object (by decide)]
  simp only [Json.optional?, Option.bind_eq_bind, Option.bind_some, permitted, excluded]
  rfl

/-! ### Revocation -/

theorem DistributionPointName.recovers : Json.Recovers toJson ofJson? := by
  intro name arcs
  unfold ofJson? toJson
  rw [Json.field1?_object]
  cases name with
  | fullName names => exact congrArg (Option.map fullName) (GeneralNames.recovers names arcs)
  | relativeName relative =>
    exact congrArg (Option.map relativeName) (RelativeName.recovers relative arcs)

theorem DistributionPoint.recovers : Json.Recovers toJson ofJson? := by
  intro point arcs
  obtain ⟨first, second⟩ := List.forall_mem_append.1 arcs
  have name := DistributionPointName.recovers.option nofun point.name first
  have reasons := Json.option?_option ReasonFlags.ofJson?_toJson nofun point.reasons
  have issuer := GeneralNames.recovers.option nofun point.issuer second
  rw [ofJson?, toJson, Json.fields3?_object (by decide)]
  simp only [Json.optional?, Option.bind_eq_bind, Option.bind_some, name, reasons, issuer]
  rfl

/-! ### Policies, access, extensions and keys -/

theorem PolicyMapping.recovers : Json.Recovers toJson ofJson? := by
  intro mapping arcs
  obtain ⟨first, others⟩ := List.forall_mem_cons.1 arcs
  obtain ⟨second, -⟩ := List.forall_mem_cons.1 others
  have issuer := ObjectIdentifier.ofJson?_toJson first
  have subject := ObjectIdentifier.ofJson?_toJson second
  rw [ofJson?, toJson, Json.fields2?_object (by decide)]
  simp only [Json.required?, PolicyId.ofJson?, PolicyId.toJson, Option.bind_eq_bind,
    Option.bind_some, issuer, subject]
  rfl

theorem AccessDescription.recovers : Json.Recovers toJson ofJson? := by
  intro access arcs
  obtain ⟨two, others⟩ := List.forall_mem_cons.1 arcs
  have method := ObjectIdentifier.ofJson?_toJson two
  have location := GeneralName.recovers access.location others
  rw [ofJson?, toJson, Json.fields2?_object (by decide)]
  simp only [Json.required?, Option.bind_eq_bind, Option.bind_some, method, location]
  rfl

theorem Envelope.recovers : Json.Recovers toJson ofJson? := by
  intro envelope arcs
  have oid := ObjectIdentifier.ofJson?_toJson (arcs envelope.oid List.mem_cons_self)
  have value := Octets.ofJson?_toJson envelope.value
  rw [ofJson?, toJson, Json.fields3?_object (by decide)]
  simp only [Json.required?, Json.bool?, Option.bind_eq_bind, Option.bind_some, oid, value]
  rfl

theorem KeyIdentifier.recovers : Json.Recovers toJson ofJson? :=
  fun identifier _ => identifier.ofJson?_toJson

/-! ### All forms -/

/-- **From a value to its JSON form and back only the kinds of directory strings are lost.** The
object identifiers must have two arcs at least. A value all of whose strings are UTF-8 comes back
the same, and a name always comes back as one that agrees with it. -/
theorem Json.forms_roundTrip :
    RoundTrip Name.toJson Name.ofJson? ∧
    RoundTrip GeneralName.toJson GeneralName.ofJson? ∧
    RoundTrip GeneralNames.toJson GeneralNames.ofJson? ∧
    RoundTrip GeneralSubtree.toJson GeneralSubtree.ofJson? ∧
    RoundTrip GeneralSubtrees.toJson GeneralSubtrees.ofJson? ∧
    RoundTrip NameConstraints.toJson NameConstraints.ofJson? ∧
    RoundTrip DistributionPointName.toJson DistributionPointName.ofJson? ∧
    RoundTrip DistributionPoint.toJson DistributionPoint.ofJson? ∧
    RoundTrip PolicyMapping.toJson PolicyMapping.ofJson? ∧
    RoundTrip AccessDescription.toJson AccessDescription.ofJson? ∧
    RoundTrip Envelope.toJson Envelope.ofJson? ∧
    RoundTrip KeyIdentifier.toJson KeyIdentifier.ofJson? ∧
    ∀ name : Name, HasTwoArcs name →
      ∃ back, Name.ofJson? name.toJson = some back ∧ name.canonicalEq back = true :=
  ⟨Name.recovers.roundTrip, GeneralName.recovers.roundTrip, GeneralNames.recovers.roundTrip,
    GeneralSubtree.recovers.roundTrip, GeneralSubtrees.recovers.roundTrip,
    NameConstraints.recovers.roundTrip, DistributionPointName.recovers.roundTrip,
    DistributionPoint.recovers.roundTrip, PolicyMapping.recovers.roundTrip,
    AccessDescription.recovers.roundTrip, Envelope.recovers.roundTrip,
    KeyIdentifier.recovers.roundTrip,
    fun name arcs => ⟨asUtf8 name, Name.recovers name arcs, name.canonicalEq_asUtf8⟩⟩

/-- A common name as a printable string, and an attribute that is no string. -/
def Json.sampleName : Name :=
  ⟨[⟨[{ type := ⟨[2, 5, 4, 3]⟩, value := .text { kind := .printable, text := "Example" } },
    { type := ⟨[0, 9]⟩, value := .encoded [0x05, 0x00] }]⟩]⟩

/-- A network with a host bit that is set. -/
def Json.sampleNetwork : Network 128 where
  address := 0x20010db8000000000000000000000001
  ones := 32
  ones_le := by decide

/-- A distribution point with names of four forms. -/
def Json.samplePoint : DistributionPoint where
  name := some (.fullName ⟨[.directoryName sampleName, .ipAddress (.network (.v6 sampleNetwork)),
    .ipAddress (.address (.v4 0x0a000001)), .registeredId ⟨[1, 18446744073709551615]⟩]⟩)
  reasons := some (.ofBits [false, true])
  issuer := none

theorem Json.forms_roundTrip_sample :
    HasTwoArcs samplePoint ∧ asUtf8 samplePoint ≠ samplePoint ∧
      DistributionPoint.ofJson? samplePoint.toJson = some (asUtf8 samplePoint) ∧
      HasTwoArcs (asUtf8 samplePoint) ∧ IsUtf8 (asUtf8 samplePoint) ∧
      DistributionPoint.ofJson? (asUtf8 samplePoint).toJson = some (asUtf8 samplePoint) ∧
      HasTwoArcs sampleName ∧
      ∃ back, Name.ofJson? sampleName.toJson = some back ∧ sampleName.canonicalEq back = true := by
  obtain ⟨-, -, -, -, -, -, -, point, -, -, -, -, name⟩ := forms_roundTrip
  have arcs : HasTwoArcs samplePoint := by decide
  have arcs' : HasTwoArcs (asUtf8 samplePoint) := by decide
  have utf8 : IsUtf8 (asUtf8 samplePoint) := by decide
  have arcs'' : HasTwoArcs sampleName := by decide
  exact ⟨arcs, by decide, point.upToKinds samplePoint arcs, arcs', utf8,
    point.exactly (asUtf8 samplePoint) arcs' utf8, arcs'', name sampleName arcs''⟩

end X509
