/-
**The text of addresses and networks reads back.**

Numbers are written without leading zeros, so every spelling reads them. The groups of an address of
version 6 are told apart from an address of version 4 by what follows their digits, which is never a
dot, and the groups that two colons stand for are the zeros that are missing. Which zeros are left
out does not matter, only that there are two at least: both spellings take them.

* `digitRun_toDigits` — the digits of a number are found at the start of a text.
* `v4?_dotted`, `v6?_colonText` — the two versions, in any spelling and whatever follows.
* `IpAddress.ofText?_toText`, `IpNetwork.ofText?_toText` — whole texts.
-/

import Mathlib.Data.List.Basic
import X509.Address.Text

namespace X509.IpAddress

/-! ### Numbers -/

section Numbers

variable {digit? : Char → Option Nat} {base : Nat}

/-- A reader of digits knows those of a base. -/
def Knows (digit? : Char → Option Nat) (base : Nat) : Prop :=
  ∀ digit < base, digit? (Nat.digitChar digit) = some digit

theorem knows_decimalDigit? : Knows decimalDigit? 10 := by
  unfold Knows
  decide

theorem knows_hexDigit? : Knows Octets.hexDigit? 16 := by
  unfold Knows
  decide

/-- The digits of a number have their values, which come to the number, and no zero leads. -/
theorem exists_digits (knows : Knows digit? base) (large : 1 < base) (value : Nat) :
    ∃ digits : List Nat, (Nat.toDigits base value).map digit? = digits.map some ∧
      digits.foldl (fun value digit => value * base + digit) 0 = value ∧
      (digits.head? = some 0 → digits.length = 1) := by
  induction value using Nat.strongRecOn with
  | ind value ih =>
    by_cases small : value < base
    · refine ⟨[value], ?_, ?_, fun _ => rfl⟩
      · rw [Nat.toDigits_of_lt_base small, List.map_singleton, knows value small]
        rfl
      · rw [List.foldl_cons, List.foldl_nil, Nat.zero_mul, Nat.zero_add]
    · have le := Nat.not_lt.1 small
      have positive : 0 < value / base := Nat.div_pos le (Nat.zero_lt_of_lt large)
      obtain ⟨digits, values, total, leads⟩ :=
        ih (value / base) (Nat.div_lt_self (Nat.lt_of_lt_of_le (by omega) le) large)
      refine ⟨digits ++ [value % base], ?_, ?_, fun zero => ?_⟩
      · rw [Nat.toDigits_of_base_le large le, List.map_append, values, List.map_append,
          List.map_singleton, knows _ (Nat.mod_lt value (Nat.zero_lt_of_lt large))]
        rfl
      · rw [List.foldl_append, total, List.foldl_cons, List.foldl_nil, Nat.mul_comm,
          Nat.div_add_mod]
      · -- a zero that leads would be the only digit before the last one
        cases digits with
        | nil =>
          have none := List.map_eq_nil_iff.1 values
          exact absurd none Nat.toDigits_ne_nil
        | cons digit digits =>
          obtain rfl : digit = 0 := Option.some.inj zero
          obtain rfl := List.length_eq_zero_iff.1 (Nat.succ.inj (leads rfl))
          rw [List.foldl_cons, List.foldl_nil, Nat.zero_mul] at total
          exact absurd total (Nat.ne_of_lt positive)

/-- A run of digits ends where a character is none. -/
theorem digitRun_append {text rest : List Char} {digits : List Nat}
    (values : text.map digit? = digits.map some) (stops : ∀ c ∈ rest.head?, digit? c = none) :
    digitRun digit? (text ++ rest) = (digits, rest) := by
  induction text generalizing digits with
  | nil =>
    obtain rfl := List.map_eq_nil_iff.1 values.symm
    cases rest with
    | nil => rfl
    | cons c rest => rw [List.nil_append, digitRun, stops c rfl]
  | cons c text ih =>
    cases digits with
    | nil => cases values
    | cons digit digits =>
      obtain ⟨here, others⟩ := List.cons.inj values
      rw [List.cons_append, digitRun, here, ih others]

/-- **The digits of a number are found at the start of a text.** They are as many as were written,
and none of several is a zero that leads. -/
theorem digitRun_toDigits (knows : Knows digit? base) (large : 1 < base) (value : Nat)
    {rest : List Char} (stops : ∀ c ∈ rest.head?, digit? c = none) :
    ∃ digits : List Nat, digitRun digit? (Nat.toDigits base value ++ rest) = (digits, rest) ∧
      digits.foldl (fun value digit => value * base + digit) 0 = value ∧
      digits.length = (Nat.toDigits base value).length ∧
      (digits.head? = some 0 → digits.length = 1) := by
  obtain ⟨digits, values, total, leads⟩ := exists_digits knows large value
  have count := congrArg List.length values
  rw [List.length_map, List.length_map] at count
  exact ⟨digits, digitRun_append values stops, total, count.symm, leads⟩

end Numbers

variable {spelling : Spelling} {rest : List Char}

theorem decimal?_toDigits {value most : Nat} (le : value ≤ most)
    (stops : ∀ c ∈ rest.head?, decimalDigit? c = none) :
    decimal? spelling most (Nat.toDigits 10 value ++ rest) = some (value, rest) := by
  obtain ⟨digits, run, total, count, leads⟩ :=
    digitRun_toDigits knows_decimalDigit? (by decide) value stops
  have positive : 0 < (Nat.toDigits 10 value).length := Nat.length_toDigits_pos
  have room : (Nat.toDigits 10 value).length ≤ (Nat.toDigits 10 most).length := by
    rw [Nat.length_toDigits_le_iff (by decide) Nat.length_toDigits_pos]
    exact Nat.lt_of_le_of_lt le
      ((Nat.length_toDigits_le_iff (by decide) Nat.length_toDigits_pos).1 (Nat.le_refl _))
  have filled : digits.isEmpty = false := by
    rw [List.isEmpty_eq_false_iff, ← List.length_pos_iff]
    omega
  have plain : (digits.head? == some 0 && decide (1 < digits.length)) = false := by
    rw [Bool.and_eq_false_iff, beq_eq_false_iff_ne, decide_eq_false_iff_not]
    by_cases zero : digits.head? = some 0
    · exact .inr (by rw [leads zero]; decide)
    · exact .inl zero
  have fits : ¬ (Nat.toDigits 10 most).length < digits.length := by omega
  have below : ¬ most < value := by omega
  simp only [decimal?, run, total, filled, plain, fits, below, decide_false, Bool.false_and,
    Bool.or_false, Bool.false_eq_true, if_false]

theorem group?_toDigits {value : Nat} (small : value < 65536)
    (stops : ∀ c ∈ rest.head?, Octets.hexDigit? c = none) :
    group? (Nat.toDigits 16 value ++ rest) = some (value, rest) := by
  obtain ⟨digits, run, total, count, -⟩ :=
    digitRun_toDigits knows_hexDigit? (by decide) value stops
  have positive : 0 < (Nat.toDigits 16 value).length := Nat.length_toDigits_pos
  have room : (Nat.toDigits 16 value).length ≤ 4 := by
    rwa [Nat.length_toDigits_le_iff (by decide) (by decide)]
  have filled : digits.isEmpty = false := by
    rw [List.isEmpty_eq_false_iff, ← List.length_pos_iff]
    omega
  have fits : ¬ 4 < digits.length := by omega
  simp only [group?, run, total, filled, fits, decide_false, Bool.or_false, Bool.false_eq_true,
    if_false]

/-! ### Version 4 -/

theorem after?_self (c : Char) (rest : List Char) : after? c (c :: rest) = some rest :=
  if_pos rfl

/-- The text of an address of version 4, number by number. -/
theorem dotted_eq (bits : BitVec 32) :
    dotted bits = Nat.toDigits 10 (bits.toNat / 16777216 % 256) ++
      '.' :: (Nat.toDigits 10 (bits.toNat / 65536 % 256) ++
      '.' :: (Nat.toDigits 10 (bits.toNat / 256 % 256) ++
      '.' :: Nat.toDigits 10 (bits.toNat % 256))) := by
  simp [dotted, Octets.ofNatFixed, List.range_succ, Text.join, Nat.shiftRight_eq_div_pow]

/-- **The text of an address of version 4 reads back.** -/
theorem v4?_dotted (bits : BitVec 32) (stops : ∀ c ∈ rest.head?, decimalDigit? c = none) :
    v4? spelling (dotted bits ++ rest) = some (bits, rest) := by
  have octet (value : Nat) : value % 256 ≤ 255 := Nat.le_of_lt_succ (Nat.mod_lt value (by decide))
  have dot (more : List Char) : ∀ c ∈ ('.' :: more).head?, decimalDigit? c = none := by
    rintro c same
    rw [← Option.some.inj same]
    rfl
  have whole : (((bits.toNat / 16777216 % 256 * 256 + bits.toNat / 65536 % 256) * 256 +
      bits.toNat / 256 % 256) * 256 + bits.toNat % 256) = bits.toNat := by
    have bound : bits.toNat < 4294967296 := bits.isLt
    omega
  rw [dotted_eq]
  simp only [v4?, List.append_assoc, List.cons_append, decimal?_toDigits (octet _) (dot _),
    decimal?_toDigits (octet _) stops, Option.bind_eq_bind, Option.bind_some, after?_self, whole,
    BitVec.ofNat_toNat, BitVec.setWidth_eq]
  rfl

/-! ### Groups -/

/-- What may follow a group: no digit that would belong to it, and no dot that would make its digits
part of an address of version 4. -/
def EndsGroup (rest : List Char) : Prop :=
  ∀ c ∈ rest.head?, Octets.hexDigit? c = none ∧ c ≠ '.'

/-- What may follow the last group: what may follow any, and behind a colon no other group. -/
structure EndsGroups (rest : List Char) : Prop where
  here : EndsGroup rest
  further {next : List Char} (colon : after? ':' rest = some next) : EndsGroup next

theorem endsGroup_nil : EndsGroup [] :=
  nofun

theorem endsGroup_cons {c : Char} (other : Octets.hexDigit? c = none) (dotless : c ≠ '.')
    (rest : List Char) : EndsGroup (c :: rest) := by
  rintro d same
  obtain rfl := Option.some.inj same
  exact ⟨other, dotless⟩

theorem endsGroups_nil : EndsGroups [] :=
  ⟨endsGroup_nil, nofun⟩

theorem endsGroups_slash (rest : List Char) : EndsGroups ('/' :: rest) :=
  ⟨endsGroup_cons rfl (by decide) rest, nofun⟩

theorem endsGroups_colons (rest : List Char) : EndsGroups (':' :: ':' :: rest) where
  here := endsGroup_cons rfl (by decide) _
  further colon := by
    rw [after?_self] at colon
    rw [← Option.some.inj colon]
    exact endsGroup_cons rfl (by decide) rest

/-- A character that is no hexadecimal digit is no decimal one. -/
theorem decimalDigit?_of_hexDigit? {c : Char} (other : Octets.hexDigit? c = none) :
    decimalDigit? c = none := by
  unfold Octets.hexDigit? at other
  split at other
  · cases other
  · next plain => exact if_neg plain

theorem EndsGroup.stops (ends : EndsGroup rest) : ∀ c ∈ rest.head?, Octets.hexDigit? c = none :=
  fun c here => (ends c here).1

theorem EndsGroup.stops_decimal (ends : EndsGroup rest) :
    ∀ c ∈ rest.head?, decimalDigit? c = none :=
  fun c here => decimalDigit?_of_hexDigit? (ends c here).1

/-- Hexadecimal digits start no address of version 4, unless a dot follows. -/
theorem v4?_of_endsGroup {text : List Char}
    (digits : ∀ c ∈ text, (Octets.hexDigit? c).isSome = true) (ends : EndsGroup rest) :
    v4? spelling (text ++ rest) = none := by
  have undotted : after? '.' (digitRun decimalDigit? (text ++ rest)).2 = none := by
    induction text with
    | nil =>
      cases rest with
      | nil => rfl
      | cons c rest =>
        rw [List.nil_append, digitRun, ends.stops_decimal c rfl]
        exact if_neg (ends c rfl).2
    | cons c text ih =>
      obtain ⟨here, others⟩ := List.forall_mem_cons.1 digits
      rw [List.cons_append, digitRun]
      cases decimalDigit? c with
      | some digit => exact ih others
      | none =>
        refine if_neg ?_
        rintro rfl
        cases here
  unfold v4? decimal?
  dsimp only
  split
  · rfl
  · rw [Option.bind_eq_bind, Option.bind_some, undotted]
    rfl

/-- What ends a group starts no address of version 4 either. -/
theorem v4?_of_ends (ends : EndsGroup rest) : v4? spelling rest = none :=
  @v4?_of_endsGroup spelling rest [] nofun ends

theorem isSome_hexDigit?_of_mem {value : Nat} {c : Char} (member : c ∈ Nat.toDigits 16 value) :
    (Octets.hexDigit? c).isSome = true := by
  obtain ⟨digits, values, -⟩ := exists_digits knows_hexDigit? (by decide) value
  have read : Octets.hexDigit? c ∈ digits.map some :=
    values ▸ List.mem_map_of_mem member
  obtain ⟨digit, -, same⟩ := List.mem_map.1 read
  rw [← same]
  rfl

/-- Where a group would start: behind a colon, unless it is the first one. -/
def groupStart? (isFirst : Bool) (text : List Char) : Option (List Char) :=
  if isFirst then some text else after? ':' text

/-- No group stands where none can start. -/
theorem groupRun_of_none {limit : Nat} {isFirst : Bool} {text : List Char}
    (ends : ∀ start, groupStart? isFirst text = some start → EndsGroup start) :
    groupRun spelling limit isFirst text = { groups := [], embedded := false, rest := text } := by
  cases limit with
  | zero => rfl
  | succ limit =>
    rw [groupRun, ← groupStart?]
    cases begins : groupStart? isFirst text with
    | none => cases limit <;> rfl
    | some start =>
      have ends := ends start begins
      have v4 : v4? spelling start = none := v4?_of_ends ends
      have group : group? start = none := by
        cases start with
        | nil => rfl
        | cons c start => rw [group?, digitRun, ends.stops c rfl]; rfl
      simp only [Option.bind_some, v4, group, ite_self]

/-- **One group is read, and then those that follow.** -/
theorem groupRun_group {limit group : Nat} {isFirst : Bool} {text : List Char}
    (begins : groupStart? isFirst text = some (Nat.toDigits 16 group ++ rest))
    (small : group < 65536) (ends : EndsGroup rest) :
    groupRun spelling (limit + 1) isFirst text =
      { groupRun spelling limit false rest with
        groups := group :: (groupRun spelling limit false rest).groups } := by
  have v4 : v4? spelling (Nat.toDigits 16 group ++ rest) = none :=
    v4?_of_endsGroup (fun _ => isSome_hexDigit?_of_mem) ends
  rw [groupRun, ← groupStart?, begins]
  simp only [Option.bind_some, v4, ite_self, group?_toDigits small ends.stops]

/-- Groups with a colon before each of them. -/
def withColons (groups : List Nat) : List Char :=
  groups.flatMap fun group => ':' :: Nat.toDigits 16 group

theorem withColons_cons (group : Nat) (groups : List Nat) :
    withColons (group :: groups) = ':' :: (Nat.toDigits 16 group ++ withColons groups) :=
  rfl

/-- The first group has no colon before it. -/
theorem colonGroups_cons (group : Nat) (groups : List Nat) :
    colonGroups (group :: groups) = Nat.toDigits 16 group ++ withColons groups := by
  unfold colonGroups
  induction groups generalizing group with
  | nil => exact (List.append_nil _).symm
  | cons next groups ih =>
    have others := ih next
    rw [List.map_cons] at others
    rw [List.map_cons, List.map_cons, Text.join, others, withColons_cons]
    simp

theorem endsGroup_withColons (groups : List Nat) (ends : EndsGroup rest) :
    EndsGroup (withColons groups ++ rest) := by
  cases groups with
  | nil => exact ends
  | cons group groups => exact endsGroup_cons rfl (by decide) _

theorem groupRun_withColons {groups : List Nat} (small : ∀ group ∈ groups, group < 65536)
    (ends : EndsGroups rest) {limit : Nat} (room : groups.length ≤ limit) :
    groupRun spelling limit false (withColons groups ++ rest) =
      { groups, embedded := false, rest } := by
  induction groups generalizing limit with
  | nil => exact groupRun_of_none fun start begins => ends.further begins
  | cons group groups ih =>
    obtain ⟨here, others⟩ := List.forall_mem_cons.1 small
    obtain ⟨limit, rfl⟩ := Nat.exists_eq_add_one_of_ne_zero (Nat.ne_zero_of_lt room)
    have begins : groupStart? false (withColons (group :: groups) ++ rest) =
        some (Nat.toDigits 16 group ++ (withColons groups ++ rest)) := by
      rw [withColons_cons, List.cons_append, List.append_assoc]
      exact after?_self ':' _
    rw [groupRun_group begins here (endsGroup_withColons groups ends.here),
      ih others (Nat.le_of_succ_le_succ room)]

/-- **Groups with colons between them are read until what ends them.** -/
theorem groupRun_colonGroups {groups : List Nat} (small : ∀ group ∈ groups, group < 65536)
    (ends : EndsGroups rest) {limit : Nat} (room : groups.length ≤ limit) :
    groupRun spelling limit true (colonGroups groups ++ rest) =
      { groups, embedded := false, rest } := by
  cases groups with
  | nil =>
    refine groupRun_of_none fun start begins => ?_
    rw [← Option.some.inj begins]
    exact ends.here
  | cons group groups =>
    obtain ⟨here, others⟩ := List.forall_mem_cons.1 small
    obtain ⟨limit, rfl⟩ := Nat.exists_eq_add_one_of_ne_zero (Nat.ne_zero_of_lt room)
    have begins : groupStart? true (colonGroups (group :: groups) ++ rest) =
        some (Nat.toDigits 16 group ++ (withColons groups ++ rest)) := by
      rw [colonGroups_cons, List.append_assoc]
      rfl
    rw [groupRun_group begins here (endsGroup_withColons groups ends.here),
      groupRun_withColons others ends (Nat.le_of_succ_le_succ room)]

/-! ### Version 6 -/

theorem length_groups (bits : BitVec 128) : (groups bits).length = 8 := by
  rw [groups, List.length_map, List.length_reverse, List.length_range]

theorem lt_of_mem_groups {bits : BitVec 128} {group : Nat} (member : group ∈ groups bits) :
    group < 65536 := by
  obtain ⟨place, -, rfl⟩ := List.mem_map.1 member
  exact Nat.mod_lt _ (by decide)

/-- The groups of a number from one place on, added to what stands above that place, come to the
number. -/
theorem foldl_groups (value count : Nat) :
    ((List.range count).reverse.map fun place => value >>> (16 * place) % 65536).foldl
      (fun value group => value * 65536 + group) (value >>> (16 * count)) = value := by
  induction count with
  | zero => rfl
  | succ count ih =>
    have next : value >>> (16 * (count + 1)) * 65536 + value >>> (16 * count) % 65536 =
        value >>> (16 * count) := by
      rw [Nat.mul_succ 16 count, Nat.shiftRight_add, Nat.shiftRight_eq_div_pow _ 16]
      omega
    rw [List.range_succ, List.reverse_append, List.reverse_singleton, List.singleton_append,
      List.map_cons, List.foldl_cons, next, ih]

theorem ofGroups_groups (bits : BitVec 128) : ofGroups (groups bits) = bits := by
  have above : bits.toNat >>> (16 * 8) = 0 := by
    rw [Nat.shiftRight_eq_div_pow]
    exact Nat.div_eq_of_lt bits.isLt
  have total := foldl_groups bits.toNat 8
  rw [above] at total
  rw [ofGroups, groups, total, BitVec.ofNat_toNat, BitVec.setWidth_eq]

/-- The zeros from one place on stand between what comes before and behind them. -/
theorem eq_append_zeros (all : List Nat) (start : Nat) :
    all = all.take start ++ (List.replicate (zerosFrom all start) 0 ++
      all.drop (start + zerosFrom all start)) := by
  have zeros : (all.drop start).takeWhile (· == 0) =
      List.replicate (zerosFrom all start) 0 := by
    refine List.eq_replicate_iff.2 ⟨rfl, fun group member => ?_⟩
    exact eq_of_beq (List.all_eq_true.1 List.all_takeWhile group member)
  have behind : all.drop (start + zerosFrom all start) = (all.drop start).dropWhile (· == 0) := by
    rw [← List.drop_drop, zerosFrom]
    nth_rewrite 2 [← List.takeWhile_append_dropWhile (p := (· == 0)) (l := all.drop start)]
    exact List.drop_left
  rw [behind, ← zeros, List.takeWhile_append_dropWhile, List.take_append_drop]

/-- Two colons stand for the zeros that are missing between the groups around them. -/
theorem v6?_colons {front back : List Nat} {count : Nat} (few : spelling.fewestOmitted ≤ count)
    (positive : 0 < count) (small : ∀ group ∈ front, group < 65536)
    (small' : ∀ group ∈ back, group < 65536) (total : front.length + (count + back.length) = 8)
    (ends : EndsGroups rest) :
    v6? spelling (colonGroups front ++ (':' :: ':' :: (colonGroups back ++ rest))) =
      some (ofGroups (front ++ (List.replicate count 0 ++ back)), rest) := by
  have head : groupRun spelling 8 true (colonGroups front ++
      (':' :: ':' :: (colonGroups back ++ rest))) =
      { groups := front, embedded := false, rest := ':' :: ':' :: (colonGroups back ++ rest) } :=
    groupRun_colonGroups small (endsGroups_colons _) (by omega)
  have tail : groupRun spelling (8 - front.length - spelling.fewestOmitted) true
      (colonGroups back ++ rest) = { groups := back, embedded := false, rest } :=
    groupRun_colonGroups small' ends (by omega)
  have short : ¬ front.length = 8 := by omega
  have missing : 8 - front.length - back.length = count := by omega
  simp only [v6?, head, if_neg short, Bool.false_eq_true, if_false, after?_self, tail, missing,
    List.append_assoc, Option.bind_eq_bind, Option.bind_some]
  rfl

/-- The groups of an address that embeds one of version 4. -/
theorem v6?_embedded {bits : BitVec 128} (few : spelling.fewestOmitted ≤ 5)
    (embeds : bits.toNat >>> 32 = 0xffff) (ends : EndsGroup rest) :
    v6? spelling ("::ffff:".toList ++ dotted (bits.truncate 32) ++ rest) = some (bits, rest) := by
  have text : "::ffff:".toList ++ dotted (bits.truncate 32) ++ rest =
      ':' :: ':' :: (Nat.toDigits 16 0xffff ++ (':' :: (dotted (bits.truncate 32) ++ rest))) := rfl
  have head (more : List Char) : groupRun spelling 8 true (':' :: ':' :: more) =
      { groups := [], embedded := false, rest := ':' :: ':' :: more } :=
    @groupRun_colonGroups spelling _ [] nofun (endsGroups_colons more) 8 (Nat.zero_le _)
  obtain ⟨limit, room⟩ : ∃ limit, 8 - 0 - spelling.fewestOmitted = limit + 3 :=
    ⟨5 - spelling.fewestOmitted, by omega⟩
  have last : groupRun spelling (limit + 2) false (':' :: (dotted (bits.truncate 32) ++ rest)) =
      { groups := [(bits.truncate 32).toNat / 65536, (bits.truncate 32).toNat % 65536]
        embedded := true, rest } := by
    rw [groupRun]
    simp only [Bool.false_eq_true, if_false, after?_self, Option.bind_some,
      v4?_dotted _ ends.stops_decimal, Nat.zero_lt_succ, if_true]
  have tail : groupRun spelling (limit + 3) true
      (Nat.toDigits 16 0xffff ++ (':' :: (dotted (bits.truncate 32) ++ rest))) =
      { groups := [0xffff, (bits.truncate 32).toNat / 65536, (bits.truncate 32).toNat % 65536]
        embedded := true, rest } := by
    have first := @groupRun_group spelling (':' :: (dotted (bits.truncate 32) ++ rest)) (limit + 2)
      0xffff true _ rfl (by decide) (endsGroup_cons rfl (by decide) _)
    rwa [last] at first
  have whole : ofGroups (List.replicate 5 0 ++ [0xffff, (bits.truncate 32).toNat / 65536,
      (bits.truncate 32).toNat % 65536]) = bits := by
    have low : (bits.truncate 32).toNat = bits.toNat % 4294967296 := BitVec.toNat_setWidth 32 bits
    have high : bits.toNat / 4294967296 = 0xffff := by
      rwa [Nat.shiftRight_eq_div_pow] at embeds
    have total : (0xffff * 65536 + (bits.truncate 32).toNat / 65536) * 65536 +
        (bits.truncate 32).toNat % 65536 = bits.toNat := by omega
    show BitVec.ofNat 128 ((0xffff * 65536 + (bits.truncate 32).toNat / 65536) * 65536 +
        (bits.truncate 32).toNat % 65536) = bits
    rw [total, BitVec.ofNat_toNat, BitVec.setWidth_eq]
  rw [text]
  simp only [v6?, head, List.length_nil, if_neg (by decide : ¬ 0 = 8), Bool.false_eq_true, if_false,
    after?_self, room, tail, Option.bind_eq_bind, Option.bind_some]
  exact congrArg some (Prod.ext whole rfl)

/-- **The text of an address of version 6 reads back.** -/
theorem v6?_colonText (few : spelling.fewestOmitted ≤ 2) (bits : BitVec 128)
    (ends : EndsGroups rest) : v6? spelling (colonText bits ++ rest) = some (bits, rest) := by
  have small : ∀ group ∈ groups bits, group < 65536 := fun _ => lt_of_mem_groups
  unfold colonText
  dsimp only
  split
  · next embeds => exact v6?_embedded (Nat.le_trans few (by decide)) embeds ends.here
  · split
    · next many =>
      have parts := eq_append_zeros (groups bits) (longestZeros (groups bits))
      generalize zerosFrom (groups bits) (longestZeros (groups bits)) = count at many parts ⊢
      generalize longestZeros (groups bits) = start at parts ⊢
      have lengths := congrArg List.length parts
      rw [length_groups, List.length_append, List.length_append, List.length_replicate] at lengths
      have read := v6?_colons (Nat.le_trans few many) (Nat.zero_lt_of_lt many)
        (fun group member => small group (List.mem_of_mem_take member))
        (fun group member => small group (List.mem_of_mem_drop member)) lengths.symm ends
      rw [← parts, ofGroups_groups] at read
      simpa using read
    · have run : groupRun spelling 8 true (colonGroups (groups bits) ++ rest) =
          { groups := groups bits, embedded := false, rest } :=
        groupRun_colonGroups small ends (Nat.le_of_eq (length_groups bits))
      simp only [v6?, run, length_groups, if_true, ofGroups_groups]

/-- It is no text of an address of version 4. -/
theorem v4?_colonText (bits : BitVec 128) (ends : EndsGroups rest) :
    v4? spelling (colonText bits ++ rest) = none := by
  have none (groups : List Nat) {more : List Char} (ends : EndsGroup more) :
      v4? spelling (colonGroups groups ++ more) = none := by
    cases groups with
    | nil => exact v4?_of_ends ends
    | cons group groups =>
      rw [colonGroups_cons, List.append_assoc]
      exact v4?_of_endsGroup (fun _ => isSome_hexDigit?_of_mem) (endsGroup_withColons groups ends)
  unfold colonText
  dsimp only
  split
  · exact none [] (endsGroup_cons rfl (by decide) _)
  · split
    · rw [List.append_assoc, List.append_assoc]
      exact none _ (endsGroup_cons rfl (by decide) _)
    · exact none _ ends.here

/-! ### Whole texts -/

/-- **The text of an address reads back.** -/
theorem ofText?_toText (address : IpAddress) : ofText? address.toText.toList = some address := by
  cases address with
  | v4 bits =>
    have read : v4? .strict (dotted bits ++ []) = some (bits, []) := v4?_dotted bits nofun
    rw [List.append_nil] at read
    rw [toText, String.toList_ofList, ofText?, read]
    rfl
  | v6 bits =>
    have none : v4? .strict (colonText bits ++ []) = none := v4?_colonText bits endsGroups_nil
    have read : v6? .strict (colonText bits ++ []) = some (bits, []) :=
      v6?_colonText (by decide) bits endsGroups_nil
    rw [List.append_nil] at none read
    rw [toText, String.toList_ofList, ofText?, none, read]
    rfl

end X509.IpAddress

namespace X509.IpNetwork

/-- The number of shared bits behind a slash reads back. -/
theorem shared?_ones {width : Nat} (network : Network width) :
    shared? network.address ('/' :: Nat.toDigits 10 network.ones) = some network := by
  have read := @IpAddress.decimal?_toDigits .lenient [] _ width network.ones_le nofun
  rw [List.append_nil] at read
  simp only [shared?, IpAddress.after?_self, Option.bind_eq_bind, Option.bind_some, read,
    dif_pos network.ones_le]
  rfl

/-- **The text of a network reads back,** host bits and all. -/
theorem ofText?_toText (network : IpNetwork) : ofText? network.toText.toList = some network := by
  have text : network.toText.toList =
      network.address.toText.toList ++ '/' :: Nat.toDigits 10 network.ones := by
    simp [toText]
  rw [text]
  cases network with
  | v4 network =>
    have slash : ∀ c ∈ ('/' :: Nat.toDigits 10 network.ones).head?,
        IpAddress.decimalDigit? c = none :=
      (IpAddress.endsGroups_slash _).here.stops_decimal
    rw [address, ones, IpAddress.toText, String.toList_ofList, ofText?,
      IpAddress.v4?_dotted network.address slash]
    simp only [shared?_ones, Option.map_some]
  | v6 network =>
    have ends := IpAddress.endsGroups_slash (Nat.toDigits 10 network.ones)
    rw [address, ones, IpAddress.toText, String.toList_ofList, ofText?,
      IpAddress.v4?_colonText network.address ends,
      IpAddress.v6?_colonText (by decide) network.address ends]
    simp only [shared?_ones, Option.map_some]

end X509.IpNetwork
