/-
**The reason of a revocation.**

* `Reason.ofCode?_code` — the code of a reason stands for that reason.
-/

namespace X509

/-- Why a certificate was revoked. -/
inductive Reason where
  | unspecified
  | keyCompromise
  | caCompromise
  | affiliationChanged
  | superseded
  | cessationOfOperation
  | certificateHold
  | removeFromCrl
  | privilegeWithdrawn
  | aaCompromise
deriving DecidableEq, Repr, Inhabited

namespace Reason

/-- The number of a reason. There is no number 7. -/
def code : Reason → Nat
  | .unspecified => 0
  | .keyCompromise => 1
  | .caCompromise => 2
  | .affiliationChanged => 3
  | .superseded => 4
  | .cessationOfOperation => 5
  | .certificateHold => 6
  | .removeFromCrl => 8
  | .privilegeWithdrawn => 9
  | .aaCompromise => 10

/-- The reason with a number. -/
def ofCode? : Int → Option Reason
  | 0 => some .unspecified
  | 1 => some .keyCompromise
  | 2 => some .caCompromise
  | 3 => some .affiliationChanged
  | 4 => some .superseded
  | 5 => some .cessationOfOperation
  | 6 => some .certificateHold
  | 8 => some .removeFromCrl
  | 9 => some .privilegeWithdrawn
  | 10 => some .aaCompromise
  | _ => none

/-- The words for a reason. -/
def display : Reason → String
  | .unspecified => "Unspecified"
  | .keyCompromise => "Key Compromise"
  | .caCompromise => "CA Compromise"
  | .affiliationChanged => "Affiliation Changed"
  | .superseded => "Superseded"
  | .cessationOfOperation => "Cessation Of Operation"
  | .certificateHold => "Certificate Hold"
  | .removeFromCrl => "Remove From CRL"
  | .privilegeWithdrawn => "Privilege Withdrawn"
  | .aaCompromise => "AA Compromise"

theorem ofCode?_code (reason : Reason) : ofCode? reason.code = some reason := by
  cases reason <;> rfl

end Reason

end X509
