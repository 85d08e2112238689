/-
**The kinds of extensions with typed content.**

* `subjectKeyIdentifier` — the identifier of the key that a certificate is for.
* `certificateIssuer` — who issued the certificate that an entry of a revocation list is about.
* `crlReasonCode` — why it was revoked; the unspecified reason is written as no octets at all.
* `crlNumber`, `deltaCrlIndicator` — the number of a list, and of the list that one extends.
-/

import X509.Extension.Typed
import X509.GeneralName.Codec

namespace X509.ExtensionProfile

/-! ### Key identifiers -/

/-- The profile of subject key identifiers. -/
def subjectKeyIdentifier : ExtensionProfile (Option KeyIdentifier) where
  oid := ⟨[2, 5, 29, 14]⟩
  subject := .subjectKeyIdentifier
  name := "SubjectKeyIdentifier"
  attr := "key_id"
  expected := "KeyIdentifier"
  critical := false
  keptCritical critical := critical
  read octets := do
    let element ← readValue .subjectKeyIdentifier octets
    let identifier ← ContentError.fromPkix (KeyIdentifier.ofElement element)
    pure (some identifier)
  encode
    | some identifier => (writeValue identifier.toElement).map some
    | none => .ok none
  get content := content.map .keyIdentifier
  put?
    | .keyIdentifier identifier => some (some identifier)
    | _ => none
  cleared := none
  display _ content :=
    "X509v3 Subject Key Identifier:\n    " ++
      (content.map KeyIdentifier.display).getD "<empty>" ++ "\n"

/-! ### Issuers -/

/-- The profile of certificate issuers. -/
def certificateIssuer : ExtensionProfile GeneralNames where
  oid := ⟨[2, 5, 29, 29]⟩
  subject := .certificateIssuer
  name := "CertificateIssuer"
  attr := "issuer"
  expected := "GeneralNames"
  critical := true
  keptCritical critical := critical
  read octets := do
    let element ← readValue .certificateIssuer octets
    GeneralNames.ofElement .plain element
  encode names := do
    match ← names.toElement? with
    | some element => (writeValue element).map some
    | none => pure none
  get names := if names.names.isEmpty then none else some (.generalNames names)
  put?
    | .generalNames names => some names
    | _ => none
  cleared := ⟨[]⟩
  display critical names :=
    "X509v3 Certificate Issuer:" ++ (if critical then " critical" else "") ++ "\n    " ++
      names.display ++ "\n"

/-! ### Reasons -/

/-- The profile of reason codes. -/
def crlReasonCode : ExtensionProfile Reason where
  oid := ⟨[2, 5, 29, 21]⟩
  subject := .crlReasonCode
  name := "CRLReasonCode"
  attr := "reason"
  expected := "CrlReason"
  critical := false
  keptCritical critical := critical
  read octets :=
    if octets.isEmpty then
      .ok .unspecified
    else do
      match ← readValue .crlReasonCode octets with
      | .enumerated code => pure ((Reason.ofCode? code).getD .unspecified)
      | _ => throw (.expectedEnumerated .crlReasonCode)
  encode reason :=
    if reason = .unspecified then
      .ok none
    else
      (writeValue (.enumerated reason.code)).map some
  get reason := some (.reason reason)
  put?
    | .reason reason => some reason
    | _ => none
  cleared := .unspecified
  display _ reason := "X509v3 CRL Reason Code:\n    " ++ reason.display ++ "\n"

/-! ### Numbers -/

/-- The profile of an extension that is a number. One that is `alwaysCritical` is critical whatever
flag it comes with. -/
def number (oid : ObjectIdentifier) (subject : Subject) (name label : String)
    (alwaysCritical : Bool) : ExtensionProfile (Option Int) where
  oid := oid
  subject := subject
  name := name
  attr := "value"
  expected := "Integer"
  critical := alwaysCritical
  keptCritical critical := critical || alwaysCritical
  read octets := do
    match ← readValue subject octets with
    | .integer value => if value < 0 then throw (.outOfRange subject .number) else pure (some value)
    | _ => throw (.expectedInteger subject)
  encode
    | some value => (writeValue (.integer value)).map some
    | none => .ok none
  get content := content.map .integer
  put?
    | .integer value => some (some value)
    | _ => none
  cleared := none
  display _ content := label ++ ": " ++ (content.map toString).getD "<empty>" ++ "\n"

/-- The profile of list numbers. -/
def crlNumber : ExtensionProfile (Option Int) :=
  number ⟨[2, 5, 29, 20]⟩ .crlNumber "CRLNumber" "CRL Number" false

/-- The profile of the numbers of extended lists. -/
def deltaCrlIndicator : ExtensionProfile (Option Int) :=
  number ⟨[2, 5, 29, 27]⟩ .deltaCrlIndicator "DeltaCRLIndicator" "Base CRL Number" true

end X509.ExtensionProfile
