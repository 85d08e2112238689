/-
**The groups of octets in an object identifier.**

Contents octets come in groups, each of which spells a number in base 128 and ends at the first
octet below 128. Nothing but the size of these numbers and the end of the last group decides whether
the octets are an object identifier. That an overflow is looked for before an octet is added makes
no difference: a number of which 128 times the beginning fits in a word fits as well, since a word
holds a multiple of 128 numbers.

* `ObjectIdentifier.groups`, `ObjectIdentifier.groupValue` — the groups and what they spell.
* `ObjectIdentifier.numbersAfter_group` — one group, by induction on its octets.
* `ObjectIdentifier.numbersAfter_flatten` — groups in a row.
* `ObjectIdentifier.numberOctets_groupValue` — a group is written without the zeros in front.
* `ObjectIdentifier.contents_laws` — which octets are read and which arcs written, and how the two
  go together.
-/

import Mathlib.Algebra.Ring.Nat
import Mathlib.Data.List.Induction
import X509.Proofs.Value.ObjectIdentifier

namespace X509.ObjectIdentifier

variable {octets group leading rest : Octets} {octet last : UInt8} {value : Nat} {pending : Bool}
  {numbers : List Nat} {oid : ObjectIdentifier}

/-! ### Groups -/

/-- The octets in groups, each up to the next octet below 128. Where there is none, the last group
takes what is left. -/
def groups : Octets → List Octets
  | [] => []
  | octet :: rest =>
    if octet < 0x80 then
      [octet] :: groups rest
    else
      match groups rest with
      | [] => [[octet]]
      | group :: others => (octet :: group) :: others

/-- The number that base-128 octets spell behind others that spell `value`. -/
def valueAfter (value : Nat) (octets : Octets) : Nat :=
  octets.foldl (fun value octet => value * 128 + octet.toNat % 128) value

/-- The number that a group spells. -/
def groupValue (group : Octets) : Nat :=
  valueAfter 0 group

/-- A group without the zero digits in front. -/
def trimmed (group : Octets) : Octets :=
  group.dropWhile (· == 0x80)

/-- Octets that end with the end of a group, if there are any. -/
def Complete (octets : Octets) : Prop :=
  ∀ last ∈ octets.getLast?, last < 0x80

/-- **Octets of which only the last one is below 128.** -/
inductive IsGroup : Octets → Prop where
  | last {octet : UInt8} (low : octet < 0x80) : IsGroup [octet]
  | leading {octet : UInt8} {group : Octets} (high : ¬ octet < 0x80) (others : IsGroup group) :
      IsGroup (octet :: group)

theorem flatten_groups (octets : Octets) : (groups octets).flatten = octets := by
  induction octets with
  | nil => rfl
  | cons octet rest ih =>
    rw [groups]
    split
    · rw [List.flatten_cons, ih, List.singleton_append]
    · split
      · next none =>
        rw [none, List.flatten_nil] at ih
        rw [← ih]
        rfl
      · next group others some =>
        rw [some, List.flatten_cons] at ih
        rw [List.flatten_cons, List.cons_append, ih]

theorem eq_nil_of_groups (none : groups octets = []) : octets = [] := by
  rw [← flatten_groups octets, none, List.flatten_nil]

theorem complete_nil : Complete [] :=
  nofun

theorem complete_cons_cons : Complete (octet :: last :: rest) ↔ Complete (last :: rest) := by
  rw [Complete, Complete, List.getLast?_cons_cons]

/-- What is left after a low octet is complete if the whole was. -/
theorem Complete.of_cons (complete : Complete (octet :: rest)) : Complete rest := by
  cases rest with
  | nil => exact complete_nil
  | cons next rest => exact complete_cons_cons.1 complete

/-- **Complete octets come in groups.** -/
theorem isGroup_of_mem_groups (complete : Complete octets) :
    ∀ group ∈ groups octets, IsGroup group := by
  induction octets with
  | nil => nofun
  | cons octet rest ih =>
    have inner := ih complete.of_cons
    rw [groups]
    split
    · next low => exact List.forall_mem_cons.2 ⟨.last low, inner⟩
    · next high =>
      split
      · next none =>
        rw [eq_nil_of_groups none] at complete
        exact absurd (complete octet rfl) high
      · next group others some =>
        rw [some, List.forall_mem_cons] at inner
        exact List.forall_mem_cons.2 ⟨.leading high inner.1, inner.2⟩

/-! ### Reading -/

theorem valueAfter_cons (value : Nat) (octet : UInt8) (rest : Octets) :
    valueAfter value (octet :: rest) = valueAfter (value * 128 + octet.toNat % 128) rest := rfl

theorem valueAfter_concat (value : Nat) (octets : Octets) (last : UInt8) :
    valueAfter value (octets ++ [last]) = valueAfter value octets * 128 + last.toNat % 128 := by
  rw [valueAfter, List.foldl_append]
  rfl

/-- More octets make no smaller number. -/
theorem le_valueAfter (value : Nat) (octets : Octets) : value ≤ valueAfter value octets := by
  induction octets generalizing value with
  | nil => exact Nat.le_refl value
  | cons octet rest ih =>
    have more := ih (value * 128 + octet.toNat % 128)
    rw [valueAfter_cons]
    omega

/-- **A group is read as its number, if that fits in an arc.** -/
theorem numbersAfter_group (isGroup : IsGroup group) (value : Nat) (pending : Bool)
    (rest : Octets) :
    numbersAfter value pending (group ++ rest) =
      if valueAfter value group < arcBound then
        (numbersAfter 0 false rest).map (valueAfter value group :: ·)
      else
        .error .arcOverflow := by
  induction isGroup generalizing value pending with
  | @last octet low =>
    have whole : valueAfter value [octet] = value * 128 + octet.toNat % 128 := rfl
    rw [List.singleton_append, numbersAfter, whole, if_pos low]
    -- A word holds a multiple of 128 numbers, so the last digit cannot reach over its end.
    by_cases fits : value * 128 < arcBound
    · have least : value * 128 + octet.toNat % 128 < arcBound := by
        simp only [arcBound, UInt64.size] at fits ⊢
        omega
      rw [if_neg (Nat.not_le.2 fits), if_pos least]
    · rw [if_pos (Nat.not_lt.1 fits), if_neg (by omega)]
  | @leading octet group high others ih =>
    rw [List.cons_append, numbersAfter, valueAfter_cons]
    by_cases fits : value * 128 < arcBound
    · rw [if_neg (Nat.not_le.2 fits), if_neg high, ih]
    · have large := le_valueAfter (value * 128 + octet.toNat % 128) group
      rw [if_pos (Nat.not_lt.1 fits), if_neg (by omega)]

/-- **Groups in a row are read as their numbers, if all of these fit.** -/
theorem numbersAfter_flatten {parts : List Octets} (each : ∀ group ∈ parts, IsGroup group) :
    numbersAfter 0 false parts.flatten = .ok numbers ↔
      (∀ group ∈ parts, groupValue group < arcBound) ∧ parts.map groupValue = numbers := by
  induction parts generalizing numbers with
  | nil =>
    rw [List.flatten_nil, numbersAfter, if_neg Bool.false_ne_true, Except.ok.injEq]
    simp
  | cons group parts ih =>
    obtain ⟨here, there⟩ := List.forall_mem_cons.1 each
    have whole : valueAfter 0 group = groupValue group := rfl
    rw [List.flatten_cons, numbersAfter_group here, whole, List.forall_mem_cons, List.map_cons]
    by_cases fits : groupValue group < arcBound
    · rw [if_pos fits, Except.map_eq_ok_iff]
      constructor
      · rintro ⟨others, read, rfl⟩
        obtain ⟨small, rfl⟩ := (ih there).1 read
        exact ⟨⟨fits, small⟩, rfl⟩
      · rintro ⟨⟨-, small⟩, rfl⟩
        exact ⟨_, (ih there).2 ⟨small, rfl⟩, rfl⟩
    · rw [if_neg fits]
      constructor
      · intro read
        cases read
      · intro both
        exact absurd both.1.1 fits

/-- What is read is complete, and something must follow the octets that lead on. -/
theorem complete_of_numbersAfter (read : numbersAfter value pending octets = .ok numbers) :
    Complete octets ∧ (octets = [] → pending = false) := by
  induction octets generalizing value pending numbers with
  | nil =>
    refine ⟨complete_nil, fun _ => ?_⟩
    unfold numbersAfter at read
    split at read
    · cases read
    · next free => exact (Bool.not_eq_true pending).mp free
  | cons octet rest ih =>
    refine ⟨?_, fun none => absurd none (List.cons_ne_nil octet rest)⟩
    unfold numbersAfter at read
    split at read
    · cases read
    dsimp only at read
    split at read
    · next low =>
      obtain ⟨others, tail, -⟩ := Except.map_eq_ok_iff.1 read
      cases rest with
      | nil =>
        intro last member
        obtain rfl := Option.some.inj member
        exact low
      | cons next rest => exact complete_cons_cons.2 (ih tail).1
    · cases rest with
      | nil => cases (ih read).2 rfl
      | cons next rest => exact complete_cons_cons.2 (ih read).1

/-- **The numbers that are read are those of the groups.** -/
theorem numbersAfter_eq_ok_iff :
    numbersAfter 0 false octets = .ok numbers ↔
      Complete octets ∧ (∀ group ∈ groups octets, groupValue group < arcBound) ∧
        (groups octets).map groupValue = numbers := by
  constructor
  · intro read
    have complete := (complete_of_numbersAfter read).1
    rw [← flatten_groups octets, numbersAfter_flatten (isGroup_of_mem_groups complete)] at read
    exact ⟨complete, read⟩
  · rintro ⟨complete, read⟩
    rw [← flatten_groups octets, numbersAfter_flatten (isGroup_of_mem_groups complete)]
    exact read

/-! ### Writing -/

theorem leadingOctets_eq_nil_iff : leadingOctets value = [] ↔ value = 0 := by
  rw [leadingOctets]
  split
  · next zero => simp [zero]
  · next positive => simp [positive]

/-- An octet behind others is kept unless it is a zero digit and none of the others was kept. -/
theorem trimmed_concat (kept : trimmed leading = [] → last ≠ 0x80) :
    trimmed (leading ++ [last]) = trimmed leading ++ [last] := by
  rw [trimmed, List.dropWhile_append]
  split
  · next none =>
    have nothing : trimmed leading = [] := List.isEmpty_iff.1 none
    rw [nothing, List.dropWhile_cons_of_neg (by simpa using kept nothing), List.nil_append]
  · rfl

/-- **Leading octets are written again without the zeros in front.** The number grows at its end, so
the induction is on the octets from behind. -/
theorem leadingOctets_valueAfter (high : ∀ octet ∈ leading, ¬ octet < 0x80) :
    leadingOctets (valueAfter 0 leading) = trimmed leading := by
  induction leading using List.reverseRecOn with
  | nil => exact leadingOctets_zero
  | append_singleton front octet ih =>
    have before := ih fun other member => high other (List.mem_append_left [octet] member)
    have least : 0x80 ≤ octet.toNat := by
      have here := high octet (List.mem_append_right front (List.mem_singleton_self octet))
      rwa [UInt8.lt_iff_toNat_lt, Nat.not_lt] at here
    have most := octet.toNat_lt
    have digit : UInt8.ofNat (0x80 + octet.toNat % 128) = octet := by
      rw [show 0x80 + octet.toNat % 128 = octet.toNat by omega, UInt8.ofNat_toNat]
    rw [valueAfter_concat]
    by_cases zero : valueAfter 0 front * 128 + octet.toNat % 128 = 0
    · have none : trimmed front = [] := by
        rw [← before, leadingOctets_eq_nil_iff]
        omega
      have padding : octet = 0x80 := UInt8.toNat_inj.1 (show octet.toNat = 0x80 by omega)
      rw [zero, leadingOctets_zero, trimmed, List.dropWhile_append, ← trimmed, none, padding]
      rfl
    · have kept : trimmed front = [] → octet ≠ 0x80 := by
        rintro none rfl
        rw [← before, leadingOctets_eq_nil_iff] at none
        exact zero (by rw [none]; rfl)
      rw [trimmed_concat kept, ← before, leadingOctets, if_neg zero,
        show (valueAfter 0 front * 128 + octet.toNat % 128) / 128 = valueAfter 0 front by omega,
        show (valueAfter 0 front * 128 + octet.toNat % 128) % 128 = octet.toNat % 128 by omega,
        digit]

/-- A group is made of leading octets and a last one. -/
theorem IsGroup.exists_concat (isGroup : IsGroup group) :
    ∃ leading last, group = leading ++ [last] ∧ (∀ octet ∈ leading, ¬ octet < 0x80) ∧
      last < 0x80 := by
  induction isGroup with
  | @last octet low => exact ⟨[], octet, rfl, nofun, low⟩
  | @leading octet group high others ih =>
    obtain ⟨front, last, rfl, each, low⟩ := ih
    exact ⟨octet :: front, last, rfl, List.forall_mem_cons.2 ⟨high, each⟩, low⟩

/-- **The number of a group is written as the group without the zeros in front.** -/
theorem numberOctets_groupValue (isGroup : IsGroup group) :
    numberOctets (groupValue group) = trimmed group := by
  obtain ⟨leading, last, rfl, high, low⟩ := isGroup.exists_concat
  have small : last.toNat < 128 := UInt8.lt_iff_toNat_lt.1 low
  have kept : trimmed leading = [] → last ≠ 0x80 := by
    rintro - rfl
    exact absurd low (by decide)
  rw [trimmed_concat kept, numberOctets, groupValue, valueAfter_concat,
    ← leadingOctets_valueAfter high,
    show (valueAfter 0 leading * 128 + last.toNat % 128) / 128 = valueAfter 0 leading by omega,
    show (valueAfter 0 leading * 128 + last.toNat % 128) % 128 = last.toNat by omega,
    UInt8.ofNat_toNat]

/-- The numbers of groups are written as the groups without the zeros in front. -/
theorem flatMap_groupValue {parts : List Octets} (each : ∀ group ∈ parts, IsGroup group) :
    (parts.map groupValue).flatMap numberOctets = parts.flatMap trimmed := by
  induction parts with
  | nil => rfl
  | cons group parts ih =>
    obtain ⟨here, there⟩ := List.forall_mem_cons.1 each
    rw [List.map_cons, List.flatMap_cons, List.flatMap_cons, numberOctets_groupValue here, ih there]

/-! ### Object identifiers -/

/-- What is read as an object identifier is read as numbers, the first of which is unpacked. -/
theorem ofOctets_eq_ok_iff :
    ofOctets octets = .ok oid ↔
      ∃ number others, numbersAfter 0 false octets = .ok (number :: others) ∧
        (⟨(unpack number ++ others).map UInt64.ofNat⟩ : ObjectIdentifier) = oid := by
  constructor
  · intro read
    unfold ofOctets at read
    split at read
    · cases read
    obtain ⟨numbers, spelled, made⟩ := Except.bind_eq_ok_iff.1 read
    cases numbers with
    | nil => cases made
    | cons number others => exact ⟨number, others, spelled, Except.ok.inj made⟩
  · rintro ⟨number, others, spelled, rfl⟩
    have filled : octets.isEmpty = false := by
      cases octets with
      | nil => cases spelled
      | cons octet rest => rfl
    rw [ofOctets, filled, if_neg Bool.false_ne_true, spelled]
    rfl

/-- **Octets are read if they are complete and the number of each group fits in a word.** -/
theorem exists_ofOctets_iff :
    (∃ oid, ofOctets octets = .ok oid) ↔
      octets ≠ [] ∧ Complete octets ∧ ∀ group ∈ groups octets, groupValue group < arcBound := by
  constructor
  · rintro ⟨oid, read⟩
    obtain ⟨number, others, spelled, -⟩ := ofOctets_eq_ok_iff.1 read
    obtain ⟨complete, small, -⟩ := numbersAfter_eq_ok_iff.1 spelled
    refine ⟨?_, complete, small⟩
    rintro rfl
    cases spelled
  · rintro ⟨filled, complete, small⟩
    have spelled := numbersAfter_eq_ok_iff.2 ⟨complete, small, rfl⟩
    cases parts : groups octets with
    | nil => exact absurd (eq_nil_of_groups parts) filled
    | cons group others =>
      rw [parts, List.map_cons] at spelled
      exact ⟨_, ofOctets_eq_ok_iff.2 ⟨_, _, spelled, rfl⟩⟩

/-- **What was read is written without the zeros in front of each group.** -/
theorem toOctets_of_ofOctets (read : ofOctets octets = .ok oid) :
    oid.toOctets = .ok ((groups octets).flatMap trimmed) := by
  obtain ⟨number, others, spelled, rfl⟩ := ofOctets_eq_ok_iff.1 read
  obtain ⟨complete, -, values⟩ := numbersAfter_eq_ok_iff.1 spelled
  rw [toOctets_unpack (lt_arcBound_of_numbersAfter spelled), ← values,
    flatMap_groupValue (isGroup_of_mem_groups complete)]

/-- **Two arcs that pack into one number that fits in a word.** -/
structure Packable (first second : UInt64) : Prop where
  first_le : first ≤ 2
  second_lt : first < 2 → second < 40
  fits : 40 * first.toNat + second.toNat < arcBound

theorem toOctets_cons_cons (first second : UInt64) (others : List UInt64) :
    toOctets ⟨first :: second :: others⟩ =
      if 2 < first ∨ (first < 2 ∧ 40 ≤ second) then
        .error (.invalidArc (toText ⟨first :: second :: others⟩))
      else if arcBound ≤ first.toNat * 40 + second.toNat then
        .error .arcOverflow
      else
        .ok (numberOctets (first.toNat * 40 + second.toNat) ++
          others.flatMap fun arc => numberOctets arc.toNat) := rfl

/-- **An object identifier is written if its first two arcs pack,** as the numbers that its arcs are
then. -/
theorem toOctets_eq_ok_iff :
    oid.toOctets = .ok octets ↔
      ∃ first second others, oid.arcs = first :: second :: others ∧ Packable first second ∧
        ((40 * first.toNat + second.toNat) :: others.map UInt64.toNat).flatMap numberOctets =
          octets := by
  obtain ⟨arcs⟩ := oid
  match arcs with
  | [] => exact ⟨nofun, fun ⟨_, _, _, same, _⟩ => nomatch same⟩
  | [first] => exact ⟨nofun, fun ⟨_, _, _, same, _⟩ => nomatch same⟩
  | first :: second :: others =>
    have whole : ((40 * first.toNat + second.toNat) :: others.map UInt64.toNat).flatMap
        numberOctets = numberOctets (first.toNat * 40 + second.toNat) ++
          others.flatMap fun arc => numberOctets arc.toNat := by
      rw [List.flatMap_cons, List.flatMap_map, Nat.mul_comm]
    constructor
    · intro written
      rw [toOctets_cons_cons] at written
      split at written
      · cases written
      next inside =>
      split at written
      · cases written
      next fits =>
      rw [not_or, not_and, UInt64.not_lt, UInt64.not_le] at inside
      refine ⟨first, second, others, rfl, ⟨inside.1, inside.2, by omega⟩, ?_⟩
      rw [whole]
      exact Except.ok.inj written
    · rintro ⟨_, _, _, same, packable, rfl⟩
      obtain ⟨rfl, rest⟩ := List.cons.inj same
      obtain ⟨rfl, rfl⟩ := List.cons.inj rest
      have inside : ¬ (2 < first ∨ first < 2 ∧ 40 ≤ second) := by
        rw [not_or, not_and, UInt64.not_lt, UInt64.not_le]
        exact ⟨packable.first_le, packable.second_lt⟩
      have fits := packable.fits
      rw [toOctets_cons_cons, if_neg inside, whole]
      exact if_neg (by omega)

theorem Packable.unpack_eq {first second : UInt64} (packable : Packable first second) :
    unpack (40 * first.toNat + second.toNat) = [first.toNat, second.toNat] := by
  obtain ⟨least, small, -⟩ := packable
  simp only [UInt64.le_iff_toNat_le, UInt64.lt_iff_toNat_lt, UInt64.reduceToNat] at least small
  have first_cases : first.toNat = 0 ∨ first.toNat = 1 ∨ first.toNat = 2 := by omega
  rcases first_cases with zero | one | two
  · rw [unpack, if_pos (by omega), zero, Nat.mul_zero, Nat.zero_add]
  · rw [unpack, if_neg (by omega), if_pos (by omega), one, Nat.mul_one, Nat.add_sub_cancel_left]
  · rw [unpack, if_neg (by omega), if_neg (by omega), two, Nat.add_sub_cancel_left]

/-- **What was written is read again.** -/
theorem ofOctets_of_toOctets (written : oid.toOctets = .ok octets) : ofOctets octets = .ok oid := by
  obtain ⟨first, second, others, arcs, packable, rfl⟩ := toOctets_eq_ok_iff.1 written
  refine ofOctets_eq_ok_iff.2 ⟨_, _, numbersAfter_flatMap ?_, ?_⟩
  · refine List.forall_mem_cons.2 ⟨packable.fits, fun number member => ?_⟩
    obtain ⟨arc, -, rfl⟩ := List.mem_map.1 member
    exact arc.toNat_lt
  · have kept : UInt64.ofNat ∘ UInt64.toNat = id := funext fun arc => UInt64.ofNat_toNat
    obtain ⟨_⟩ := oid
    obtain rfl := arcs
    rw [packable.unpack_eq, List.map_append, List.map_map, kept, List.map_id, List.map_cons,
      List.map_cons, List.map_nil, UInt64.ofNat_toNat, UInt64.ofNat_toNat]
    rfl

/-- **Contents octets and arcs.** Octets are an object identifier exactly if there are some, the last
one is below 128, and each group spells a number below `2 ^ 64`; what is written for it then are the
groups without the zero digits in front. Arcs have octets exactly if there are two at least, the
first is at most two, below two the second is less than forty, and the number that packs them is
below `2 ^ 64`; the octets are read as the same arcs. -/
theorem contents_laws :
    (∀ octets, (∃ oid, ofOctets octets = .ok oid) ↔
      octets ≠ [] ∧ Complete octets ∧ ∀ group ∈ groups octets, groupValue group < 2 ^ 64) ∧
    (∀ octets oid, ofOctets octets = .ok oid →
      oid.toOctets = .ok ((groups octets).flatMap trimmed)) ∧
    (∀ oid : ObjectIdentifier, (∃ octets, oid.toOctets = .ok octets) ↔
      ∃ first second others, oid.arcs = first :: second :: others ∧ first ≤ 2 ∧
        (first < 2 → second < 40) ∧ 40 * first.toNat + second.toNat < 2 ^ 64) ∧
    (∀ (oid : ObjectIdentifier) octets, oid.toOctets = .ok octets →
      ofOctets octets = .ok oid) := by
  refine ⟨fun _ => exists_ofOctets_iff, fun _ _ => toOctets_of_ofOctets, fun oid => ?_,
    fun _ _ => ofOctets_of_toOctets⟩
  constructor
  · rintro ⟨octets, written⟩
    obtain ⟨first, second, others, arcs, packable, -⟩ := toOctets_eq_ok_iff.1 written
    exact ⟨first, second, others, arcs, packable.first_le, packable.second_lt, packable.fits⟩
  · rintro ⟨first, second, others, arcs, least, small, fits⟩
    exact ⟨_, toOctets_eq_ok_iff.2 ⟨first, second, others, arcs, ⟨least, small, fits⟩, rfl⟩⟩

/-- The largest arc takes ten octets, and zeros in front of a group are dropped. With a larger first
digit the ten octets do not fit. -/
theorem contents_laws_largest :
    let octets : Octets := [0x80, 0x80, 0x2a, 0x81, 0xff, 0xff, 0xff, 0xff, 0xff, 0xff, 0xff, 0xff,
      0x7f]
    ofOctets octets = .ok ⟨[1, 2, 0xffffffffffffffff]⟩ ∧
      toOctets ⟨[1, 2, 0xffffffffffffffff]⟩ = .ok (octets.drop 2) ∧
      ofOctets (octets.drop 2) = .ok ⟨[1, 2, 0xffffffffffffffff]⟩ ∧
      ¬ ∃ oid, ofOctets [0x2a, 0x82, 0x80, 0x80, 0x80, 0x80, 0x80, 0x80, 0x80, 0x80, 0x00] =
        .ok oid := by
  intro octets
  obtain ⟨readable, rewritten, -, again⟩ := contents_laws
  have read : ofOctets octets = .ok ⟨[1, 2, 0xffffffffffffffff]⟩ := by decide +kernel
  have written := rewritten octets _ read
  have shorter : (groups octets).flatMap trimmed = octets.drop 2 := by decide +kernel
  rw [shorter] at written
  refine ⟨read, written, again _ _ written, fun some => ?_⟩
  obtain ⟨-, -, small⟩ := (readable _).1 some
  exact absurd (small [0x82, 0x80, 0x80, 0x80, 0x80, 0x80, 0x80, 0x80, 0x80, 0x00] (by decide))
    (by decide)

end X509.ObjectIdentifier
