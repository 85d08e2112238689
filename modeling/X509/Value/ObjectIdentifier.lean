/-
**Object identifiers.**

An object identifier is a list of arcs. Its contents octets are numbers in base 128, each octet but
the last of a number marked by its high bit; the first number packs the first two arcs. Its text is
the arcs in decimal with dots between them.

* `ObjectIdentifier.ofOctets`, `ObjectIdentifier.toOctets` — contents octets.
* `ObjectIdentifier.ofText`, `ObjectIdentifier.toText` — dotted text.
* `ObjectIdentifier.numbersAfter_numberOctets` — the octets of a number read back as that number.
-/

import X509.Octets
import X509.Text.Decimal
import X509.Text.Split

namespace X509

/-- An object identifier. -/
structure ObjectIdentifier where
  arcs : List UInt64
deriving DecidableEq, Repr, Hashable, Inhabited

namespace ObjectIdentifier

/-- Why something is no object identifier, or has no encoding. -/
inductive Fault where
  | noOctets
  | unfinished
  | arcOverflow
  | tooFewArcs
  | noText
  | invalidArc (text : String)
deriving DecidableEq, Repr, Inhabited

/-- The wording of a fault. -/
def Fault.message : Fault → String
  | .noOctets => "OBJECT IDENTIFIER: no data"
  | .unfinished => "OBJECT IDENTIFIER: incomplete encoding"
  | .arcOverflow => "OBJECT IDENTIFIER: arc does not fit in 64 bits"
  | .tooFewArcs => "OBJECT IDENTIFIER: too few components (need at least 2)"
  | .noText => "OBJECT IDENTIFIER: empty string"
  | .invalidArc text => "OBJECT IDENTIFIER: invalid component '" ++ text ++ "'"

/-- One more than the largest arc. -/
def arcBound : Nat := UInt64.size

/-! ### Text -/

/-- The arcs in decimal with dots between them. -/
def toText (oid : ObjectIdentifier) : String :=
  String.ofList (Text.join ['.'] (oid.arcs.map fun arc => Nat.toDigits 10 arc.toNat))

/-- The object identifier that a dotted text spells. An arc may have a plus sign and leading zeros;
there must be two of them at least. -/
def ofText (text : String) : Except Fault ObjectIdentifier :=
  if text.isEmpty then
    .error .noText
  else do
    let arcs ← (Text.splitOn '.' text.toList).mapM fun piece =>
      match Text.boundedNumeral? arcBound piece with
      | some arc => .ok (UInt64.ofNat arc)
      | none => .error (.invalidArc (String.ofList piece))
    if arcs.length < 2 then .error .tooFewArcs else .ok ⟨arcs⟩

/-! ### Contents octets -/

/-- The numbers that base-128 octets spell, when `value` is what the octets before them have
contributed to the first one, and `pending` says whether there were any. -/
def numbersAfter (value : Nat) (pending : Bool) : Octets → Except Fault (List Nat)
  | [] => if pending then .error .unfinished else .ok []
  | octet :: rest =>
    if arcBound ≤ value * 128 then
      .error .arcOverflow
    else
      let value := value * 128 + octet.toNat % 128
      if octet < 0x80 then
        (numbersAfter 0 false rest).map (value :: ·)
      else
        numbersAfter value true rest

/-- The first two arcs, packed into one number. -/
def unpack (number : Nat) : List Nat :=
  if number < 40 then [0, number]
  else if number < 80 then [1, number - 40]
  else [2, number - 80]

/-- The object identifier that contents octets spell. -/
def ofOctets (octets : Octets) : Except Fault ObjectIdentifier :=
  if octets.isEmpty then
    .error .noOctets
  else do
    match ← numbersAfter 0 false octets with
    | [] => .error .unfinished
    | first :: rest => .ok ⟨(unpack first ++ rest).map UInt64.ofNat⟩

/-- The base-128 octets of the part of a number that more octets follow. -/
def leadingOctets (value : Nat) : Octets :=
  if value = 0 then [] else leadingOctets (value / 128) ++ [UInt8.ofNat (0x80 + value % 128)]

/-- The fewest base-128 octets of a number. -/
def numberOctets (value : Nat) : Octets :=
  leadingOctets (value / 128) ++ [UInt8.ofNat (value % 128)]

/-- The contents octets of an object identifier. The first arc is at most two, and below two the
second is less than forty. -/
def toOctets (oid : ObjectIdentifier) : Except Fault Octets :=
  match oid.arcs with
  | first :: second :: rest =>
    if 2 < first ∨ (first < 2 ∧ 40 ≤ second) then
      .error (.invalidArc oid.toText)
    else
      let head := first.toNat * 40 + second.toNat
      if arcBound ≤ head then
        .error .arcOverflow
      else
        .ok (numberOctets head ++ rest.flatMap fun arc => numberOctets arc.toNat)
  | _ => .error .tooFewArcs

/-! ### Numbers read back -/

/-- The octets that more octets follow contribute the number they were written for. -/
theorem numbersAfter_leadingOctets {value : Nat} (fits : value * 128 < arcBound) (rest : Octets) :
    numbersAfter 0 false (leadingOctets value ++ rest) = numbersAfter value (value != 0) rest := by
  induction value using Nat.strongRecOn generalizing rest with
  | ind value ih =>
    rw [leadingOctets]
    split
    · next zero =>
      subst zero
      rfl
    · next positive =>
      have octet : (UInt8.ofNat (0x80 + value % 128)).toNat = 0x80 + value % 128 := by
        simp only [UInt8.toNat_ofNat', Nat.reducePow]
        omega
      have continued : ¬ UInt8.ofNat (0x80 + value % 128) < 0x80 := by
        rw [UInt8.lt_iff_toNat_lt, octet]
        simp
      have whole : value / 128 * 128 + (0x80 + value % 128) % 128 = value := by omega
      have marked : (value != 0) = true := by simpa using positive
      rw [List.append_assoc, ih (value / 128) (by omega) (by omega), List.singleton_append,
        numbersAfter, if_neg (by omega), if_neg continued, octet, whole, marked]

/-- **The octets of a number read back as that number, with what follows left over.** -/
theorem numbersAfter_numberOctets {value : Nat} (fits : value < arcBound) (rest : Octets) :
    numbersAfter 0 false (numberOctets value ++ rest) =
      (numbersAfter 0 false rest).map (value :: ·) := by
  have octet : (UInt8.ofNat (value % 128)).toNat = value % 128 := by
    simp only [UInt8.toNat_ofNat', Nat.reducePow]
    omega
  have last : UInt8.ofNat (value % 128) < 0x80 := by
    rw [UInt8.lt_iff_toNat_lt, octet]
    exact Nat.mod_lt value (by decide)
  have whole : value / 128 * 128 + value % 128 % 128 = value := by omega
  rw [numberOctets, List.append_assoc, numbersAfter_leadingOctets (by omega),
    List.singleton_append, numbersAfter, if_neg (by omega), if_pos last, octet, whole]

/-! ### Order -/

/-- The order of object identifiers: arc by arc, and a beginning before what continues it. -/
def compareArcs : List UInt64 → List UInt64 → Ordering
  | [], [] => .eq
  | [], _ :: _ => .lt
  | _ :: _, [] => .gt
  | arc :: arcs, arc' :: arcs' => (compare arc arc').then (compareArcs arcs arcs')

instance : Ord ObjectIdentifier := ⟨fun one two => compareArcs one.arcs two.arcs⟩

end ObjectIdentifier

end X509
