/-
**Object identifiers written again.**

Contents octets may pad an arc with leading zero digits; what is written for the object identifier
never does. So it is no longer than what was read, and it is read as the same object identifier.

* `ObjectIdentifier.lt_arcBound_of_numbersAfter` — a number that is read fits in an arc.
* `ObjectIdentifier.length_numberOctets_le` — numbers are written in no more octets.
* `ObjectIdentifier.exists_toOctets_of_ofOctets` — whatever was read can be written and read again.
-/

import X509.Proofs.Outcome
import X509.Value.ObjectIdentifier

namespace X509.ObjectIdentifier

/-! ### Numbers -/

theorem eq_nil_of_numbersAfter_nil {value : Nat} {pending : Bool} {numbers : List Nat}
    (read : numbersAfter value pending [] = .ok numbers) : numbers = [] := by
  unfold numbersAfter at read
  split at read <;> cases read
  rfl

/-- What one octet does: it ends a number or leads on to the next octet. -/
theorem numbersAfter_cons {value : Nat} {pending : Bool} {octet : UInt8} {rest : Octets}
    {numbers : List Nat} (read : numbersAfter value pending (octet :: rest) = .ok numbers) :
    value * 128 < arcBound ∧
      ((∃ others, numbersAfter 0 false rest = .ok others ∧
          numbers = (value * 128 + octet.toNat % 128) :: others) ∨
        numbersAfter (value * 128 + octet.toNat % 128) true rest = .ok numbers) := by
  unfold numbersAfter at read
  split at read
  · cases read
  next fits =>
  refine ⟨Nat.not_le.1 fits, ?_⟩
  dsimp only at read
  split at read
  · obtain ⟨others, tail, rfl⟩ := Except.map_eq_ok_iff.1 read
    exact .inl ⟨others, tail, rfl⟩
  · exact .inr read

theorem lt_arcBound_of_numbersAfter {value : Nat} {pending : Bool} {octets : Octets}
    {numbers : List Nat} (read : numbersAfter value pending octets = .ok numbers) :
    ∀ number ∈ numbers, number < arcBound := by
  induction octets generalizing value pending numbers with
  | nil =>
    rw [eq_nil_of_numbersAfter_nil read]
    nofun
  | cons octet rest ih =>
    obtain ⟨fits, ⟨others, tail, rfl⟩ | more⟩ := numbersAfter_cons read
    · intro number member
      rcases List.mem_cons.1 member with rfl | member
      · simp only [arcBound, UInt64.size] at fits ⊢
        omega
      · exact ih tail number member
    · exact ih more

theorem leadingOctets_zero : leadingOctets 0 = [] := by
  rw [leadingOctets, if_pos rfl]

theorem length_leadingOctets_le (value : Nat) :
    (leadingOctets value).length ≤ (leadingOctets (value / 128)).length + 1 := by
  rw [leadingOctets]
  split
  · exact Nat.zero_le _
  · exact Nat.le_of_eq List.length_append

/-- The digits of a number before its last one and the octets after them make room for it. -/
theorem length_numberOctets_le {value : Nat} {pending : Bool} {octets : Octets}
    {numbers : List Nat} (read : numbersAfter value pending octets = .ok numbers) :
    (numbers.flatMap numberOctets).length ≤ (leadingOctets value).length + octets.length := by
  induction octets generalizing value pending numbers with
  | nil =>
    rw [eq_nil_of_numbersAfter_nil read]
    exact Nat.zero_le _
  | cons octet rest ih =>
    have whole : (value * 128 + octet.toNat % 128) / 128 = value := by omega
    rw [List.length_cons]
    obtain ⟨-, ⟨others, tail, rfl⟩ | more⟩ := numbersAfter_cons read
    · have room := ih tail
      rw [leadingOctets_zero, List.length_nil] at room
      rw [List.flatMap_cons, List.length_append, numberOctets, whole, List.length_append,
        List.length_singleton]
      omega
    · have room := ih more
      have digits := length_leadingOctets_le (value * 128 + octet.toNat % 128)
      rw [whole] at digits
      omega

/-- **Written numbers are read one after the other.** -/
theorem numbersAfter_flatMap {numbers : List Nat} (fit : ∀ number ∈ numbers, number < arcBound) :
    numbersAfter 0 false (numbers.flatMap numberOctets) = .ok numbers := by
  induction numbers with
  | nil => rfl
  | cons number numbers ih =>
    rw [List.flatMap_cons, numbersAfter_numberOctets (fit number List.mem_cons_self),
      ih fun other member => fit other (List.mem_cons_of_mem number member)]
    rfl

/-! ### Object identifiers -/

theorem flatMap_arcs {numbers : List Nat} (fit : ∀ number ∈ numbers, number < arcBound) :
    (numbers.map UInt64.ofNat).flatMap (fun arc => numberOctets arc.toNat) =
      numbers.flatMap numberOctets := by
  induction numbers with
  | nil => rfl
  | cons number numbers ih =>
    have here := UInt64.toNat_ofNat_of_lt' (fit number List.mem_cons_self)
    rw [List.map_cons, List.flatMap_cons, List.flatMap_cons, here,
      ih fun other member => fit other (List.mem_cons_of_mem number member)]

/-- Arcs of which the first two pack into a number are written as that number and the others. -/
theorem toOctets_of_packs {first second number : Nat} {numbers : List Nat}
    (packs : first * 40 + second = number) (least : first ≤ 2) (small : first < 2 → second < 40)
    (fit : ∀ other ∈ number :: numbers, other < arcBound) :
    toOctets ⟨(first :: second :: numbers).map UInt64.ofNat⟩ =
      .ok ((number :: numbers).flatMap numberOctets) := by
  have head : number < arcBound := fit number List.mem_cons_self
  have first_toNat : (UInt64.ofNat first).toNat = first :=
    UInt64.toNat_ofNat_of_lt' (Nat.lt_of_le_of_lt least (by decide))
  have second_toNat : (UInt64.ofNat second).toNat = second :=
    UInt64.toNat_ofNat_of_lt' (Nat.lt_of_le_of_lt (by omega) head)
  have packable :
      ¬ (2 < UInt64.ofNat first ∨ (UInt64.ofNat first < 2 ∧ 40 ≤ UInt64.ofNat second)) := by
    simp only [UInt64.lt_iff_toNat_lt, UInt64.le_iff_toNat_le, first_toNat, second_toNat]
    rintro (large | ⟨below, above⟩)
    · exact absurd least (Nat.not_le.2 large)
    · exact absurd (small below) (Nat.not_lt.2 above)
  rw [toOctets, List.map_cons, List.map_cons]
  dsimp only
  rw [if_neg packable, first_toNat, second_toNat, packs, if_neg (Nat.not_le.2 head),
    flatMap_arcs fun other member => fit other (List.mem_cons_of_mem number member),
    List.flatMap_cons]

/-- Two arcs that were unpacked are packed into the same number again. -/
theorem toOctets_unpack {number : Nat} {numbers : List Nat}
    (fit : ∀ other ∈ number :: numbers, other < arcBound) :
    toOctets ⟨(unpack number ++ numbers).map UInt64.ofNat⟩ =
      .ok ((number :: numbers).flatMap numberOctets) := by
  unfold unpack
  split
  · exact toOctets_of_packs (by omega) (by omega) (by omega) fit
  · split
    · exact toOctets_of_packs (by omega) (by omega) (by omega) fit
    · exact toOctets_of_packs (by omega) (by omega) (by omega) fit

/-- **Whatever was read can be written, in no more octets, and is read again.** -/
theorem exists_toOctets_of_ofOctets {octets : Octets} {oid : ObjectIdentifier}
    (read : ofOctets octets = .ok oid) :
    ∃ shortest, oid.toOctets = .ok shortest ∧ ofOctets shortest = .ok oid ∧
      shortest.length ≤ octets.length := by
  unfold ofOctets at read
  split at read
  · cases read
  obtain ⟨numbers, spelled, read⟩ := Except.bind_eq_ok_iff.1 read
  cases numbers with
  | nil => cases read
  | cons number numbers =>
    obtain rfl := Except.ok.inj read
    have fit := lt_arcBound_of_numbersAfter spelled
    have short := length_numberOctets_le spelled
    rw [leadingOctets_zero, List.length_nil, Nat.zero_add] at short
    refine ⟨_, toOctets_unpack fit, ?_, short⟩
    have filled : ((number :: numbers).flatMap numberOctets).isEmpty = false := by
      rw [List.flatMap_cons, numberOctets]
      simp
    rw [ofOctets, filled, if_neg Bool.false_ne_true, numbersAfter_flatMap fit]
    rfl

end X509.ObjectIdentifier
