/-
**The nine forms of general names.**

* `NameKind.ofTag?_tag` — the tag of a form stands for that form.
-/

namespace X509

/-- The forms of general names, in the order of their tags. -/
inductive NameKind where
  | other
  | rfc822
  | dns
  | x400Address
  | directory
  | ediParty
  | uri
  | ipAddress
  | registeredId
deriving DecidableEq, Repr, Hashable, Inhabited

namespace NameKind

/-- The context-specific tag number of a form. -/
def tag : NameKind → UInt8
  | .other => 0
  | .rfc822 => 1
  | .dns => 2
  | .x400Address => 3
  | .directory => 4
  | .ediParty => 5
  | .uri => 6
  | .ipAddress => 7
  | .registeredId => 8

/-- The form with a tag number. -/
def ofTag? : UInt8 → Option NameKind
  | 0 => some .other
  | 1 => some .rfc822
  | 2 => some .dns
  | 3 => some .x400Address
  | 4 => some .directory
  | 5 => some .ediParty
  | 6 => some .uri
  | 7 => some .ipAddress
  | 8 => some .registeredId
  | _ => none

/-- Whether the form is encoded as a constructed value. -/
def isConstructed : NameKind → Bool
  | .other | .x400Address | .directory | .ediParty => true
  | _ => false

/-- The name of a form. -/
def display : NameKind → String
  | .other => "otherName"
  | .rfc822 => "rfc822Name"
  | .dns => "dNSName"
  | .x400Address => "x400Address"
  | .directory => "directoryName"
  | .ediParty => "ediPartyName"
  | .uri => "uniformResourceIdentifier"
  | .ipAddress => "iPAddress"
  | .registeredId => "registeredID"

theorem ofTag?_tag (kind : NameKind) : ofTag? kind.tag = some kind := by
  cases kind <;> rfl

end NameKind

end X509
