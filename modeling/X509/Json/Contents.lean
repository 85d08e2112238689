/-
**JSON forms of extension contents.**

Records are objects with a member for each field; a field without a value is `null`, and may be
left out when reading.
-/

import X509.Access.Description
import X509.Constraint.Subtree
import X509.Json.Names
import X509.Policy.Mapping
import X509.Revocation.DistributionPoint
import X509.Revocation.Reason

namespace X509

/-! ### Name constraints -/

/-- Reads a bound of a subtree. -/
def GeneralSubtree.boundOfJson? (json : Json) : Option UInt32 :=
  (json.natBelow? UInt32.size).map UInt32.ofNat

/-- The fields of a subtree. -/
def GeneralSubtree.toJson (subtree : GeneralSubtree) : Json :=
  .object [("base", subtree.base.toJson), ("minimum", .nat subtree.minimum.toNat),
    ("maximum", .option (fun maximum => .nat maximum.toNat) subtree.maximum)]

/-- Reads a subtree. -/
def GeneralSubtree.ofJson? (json : Json) : Option GeneralSubtree := do
  let (base, minimum, maximum) ← json.fields3? "base" "minimum" "maximum"
  let base ← Json.required? GeneralName.ofJson? base
  let minimum ← Json.required? boundOfJson? minimum
  let maximum ← Json.optional? boundOfJson? maximum
  pure { base, minimum, maximum }

/-- The field of a list of subtrees. -/
def GeneralSubtrees.toJson (list : GeneralSubtrees) : Json :=
  .object [("subtrees", .list GeneralSubtree.toJson list.subtrees)]

/-- Reads a list of subtrees. -/
def GeneralSubtrees.ofJson? (json : Json) : Option GeneralSubtrees := do
  let subtrees ← json.field1? "subtrees"
  let subtrees ← Json.required? (Json.list? GeneralSubtree.ofJson?) subtrees
  pure ⟨subtrees⟩

/-- The fields of name constraints. -/
def NameConstraints.toJson (constraints : NameConstraints) : Json :=
  .object [("permitted_subtrees", .option GeneralSubtrees.toJson constraints.permitted),
    ("excluded_subtrees", .option GeneralSubtrees.toJson constraints.excluded)]

/-- Reads name constraints. -/
def NameConstraints.ofJson? (json : Json) : Option NameConstraints := do
  let (permitted, excluded) ← json.fields2? "permitted_subtrees" "excluded_subtrees"
  let permitted ← Json.optional? GeneralSubtrees.ofJson? permitted
  let excluded ← Json.optional? GeneralSubtrees.ofJson? excluded
  pure { permitted, excluded }

/-! ### Revocation -/

/-- The names of the flags, in the order of their bits. -/
def ReasonFlags.fieldNames : List String :=
  ["key_compromise", "ca_compromise", "affiliation_changed", "superseded",
    "cessation_of_operation", "certificate_hold", "privilege_withdrawn", "aa_compromise"]

/-- The flags by name. -/
def ReasonFlags.toJson (flags : ReasonFlags) : Json :=
  .object (fieldNames.zip (flags.toBits.drop 1 |>.map .bool))

/-- Reads a set of reasons, all of whose flags must be there. -/
def ReasonFlags.ofJson? (json : Json) : Option ReasonFlags := do
  let fields ← json.fields? fieldNames
  let flags ← fields.mapM (Json.required? Json.bool?)
  pure (ofBits (false :: flags))

/-- The words for reasons. -/
def Reason.word : Reason → String
  | .unspecified => "Unspecified"
  | .keyCompromise => "KeyCompromise"
  | .caCompromise => "CaCompromise"
  | .affiliationChanged => "AffiliationChanged"
  | .superseded => "Superseded"
  | .cessationOfOperation => "CessationOfOperation"
  | .certificateHold => "CertificateHold"
  | .removeFromCrl => "RemoveFromCrl"
  | .privilegeWithdrawn => "PrivilegeWithdrawn"
  | .aaCompromise => "AaCompromise"

/-- The word for a reason. -/
def Reason.toJson (reason : Reason) : Json :=
  .string reason.word

/-- The name of a distribution point: a field that is an alternative. -/
def DistributionPointName.toJson (name : DistributionPointName) : Json :=
  .object [("name", match name with
    | .fullName names => .alternative "FullName" names.toJson
    | .relativeName relative => .alternative "RelativeName" relative.toJson)]

/-- Reads the name of a distribution point. -/
def DistributionPointName.ofJson? (json : Json) : Option DistributionPointName := do
  let field ← json.field1? "name"
  let (name, content) ← Json.required? Json.alternative? field
  match name with
  | "FullName" => (GeneralNames.ofJson? content).map .fullName
  | "RelativeName" => (RelativeName.ofJson? content).map .relativeName
  | _ => none

/-- The fields of a distribution point. -/
def DistributionPoint.toJson (point : DistributionPoint) : Json :=
  .object [("distribution_point", .option DistributionPointName.toJson point.name),
    ("reasons", .option ReasonFlags.toJson point.reasons),
    ("crl_issuer", .option GeneralNames.toJson point.issuer)]

/-- Reads a distribution point. -/
def DistributionPoint.ofJson? (json : Json) : Option DistributionPoint := do
  let (name, reasons, issuer) ← json.fields3? "distribution_point" "reasons" "crl_issuer"
  let name ← Json.optional? DistributionPointName.ofJson? name
  let reasons ← Json.optional? ReasonFlags.ofJson? reasons
  let issuer ← Json.optional? GeneralNames.ofJson? issuer
  pure { name, reasons, issuer }

/-! ### Policies and access -/

/-- The object identifier of a policy. -/
def PolicyId.toJson (policy : PolicyId) : Json :=
  policy.oid.toJson

/-- Reads a policy. -/
def PolicyId.ofJson? (json : Json) : Option PolicyId :=
  (ObjectIdentifier.ofJson? json).map .mk

/-- The fields of a mapping. -/
def PolicyMapping.toJson (mapping : PolicyMapping) : Json :=
  .object [("issuer_domain_policy", mapping.issuer.toJson),
    ("subject_domain_policy", mapping.subject.toJson)]

/-- Reads a mapping. -/
def PolicyMapping.ofJson? (json : Json) : Option PolicyMapping := do
  let (issuer, subject) ← json.fields2? "issuer_domain_policy" "subject_domain_policy"
  let issuer ← Json.required? PolicyId.ofJson? issuer
  let subject ← Json.required? PolicyId.ofJson? subject
  pure { issuer, subject }

/-- The fields of an access description. -/
def AccessDescription.toJson (access : AccessDescription) : Json :=
  .object [("access_method", access.method.toJson), ("access_location", access.location.toJson)]

/-- Reads an access description. -/
def AccessDescription.ofJson? (json : Json) : Option AccessDescription := do
  let (method, location) ← json.fields2? "access_method" "access_location"
  let method ← Json.required? ObjectIdentifier.ofJson? method
  let location ← Json.required? GeneralName.ofJson? location
  pure { method, location }

end X509
