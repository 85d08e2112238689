/-
**The dotted text of an object identifier tells its arcs.**

The decimal digits of an arc read back as that arc and hold no dot, so the arcs are found again
between the dots. The text holds nothing but digits and dots. Other texts are read as well, since an
arc may be spelled by any of its numerals: whether a text is read is decided piece by piece, and so
is whether it is written again as it was.

* `ObjectIdentifier.toText_injective` — different object identifiers have different texts.
* `ObjectIdentifier.isDigit_or_dot_of_mem_toText` — what such a text is made of.
* `ObjectIdentifier.ofText_eq_ok_iff` — which texts are read, and as which arcs.
* `ObjectIdentifier.ofText_toText` — the text reads back, if there are two arcs at least.
* `ObjectIdentifier.toText_eq_iff_of_ofText` — which of the texts that are read are written.
* `ObjectIdentifier.dottedText_laws` — all of this together.
-/

import Mathlib.Algebra.Ring.Nat
import X509.Proofs.Outcome
import X509.Proofs.Text.Guarded
import X509.Proofs.Text.Numeral
import X509.Value.ObjectIdentifier

namespace X509.ObjectIdentifier

/-! ### Written texts -/

/-- Different numbers have different decimal digits. -/
theorem eq_of_toDigits_eq {one two : Nat} (same : Nat.toDigits 10 one = Nat.toDigits 10 two) :
    one = two := by
  have read := Text.digits?_toDigits one
  rw [same, Text.digits?_toDigits two] at read
  exact (Option.some.inj read).symm

/-- The digits of an arc hold no dot, and there is one at least. -/
theorem guarded_arcs (oid : ObjectIdentifier) :
    ∀ piece ∈ oid.arcs.map fun arc => Nat.toDigits 10 arc.toNat,
      Text.Guarded (· == '.') piece ∧ piece ≠ [] := by
  intro piece member
  obtain ⟨arc, -, rfl⟩ := List.mem_map.1 member
  refine ⟨.of_free ?_, Nat.toDigits_ne_nil⟩
  intro c inside
  have digit := Text.isDigit_of_mem_toDigits inside
  constructor
  · cases dot : c == '.' with
    | false => rfl
    | true =>
      rw [eq_of_beq dot] at digit
      exact absurd digit (by decide)
  · rintro rfl
    exact absurd digit (by decide)

/-- **Different object identifiers have different texts.** -/
theorem toText_injective {one two : ObjectIdentifier} (same : one.toText = two.toText) :
    one = two := by
  obtain ⟨arcs⟩ := one
  obtain ⟨arcs'⟩ := two
  have joined := String.ofList_injective same
  have pieces := Text.join_injective (by rfl) (by decide) (guarded_arcs ⟨arcs⟩)
    (guarded_arcs ⟨arcs'⟩) joined
  have arcwise : arcs = arcs' := by
    refine (List.map_inj_right ?_).1 pieces
    intro arc arc' digits
    exact UInt64.toNat_inj.1 (eq_of_toDigits_eq digits)
  rw [arcwise]

theorem isDigit_or_dot_of_mem_toText {oid : ObjectIdentifier} {c : Char}
    (member : c ∈ oid.toText.toList) : c.isDigit = true ∨ c = '.' := by
  rw [toText, String.toList_ofList] at member
  rcases Text.mem_of_mem_join member with dot | ⟨piece, found, inside⟩
  · exact .inr (List.mem_singleton.1 dot)
  · obtain ⟨arc, -, rfl⟩ := List.mem_map.1 found
    exact .inl (Text.isDigit_of_mem_toDigits inside)

/-- What stands between the dots of a text. -/
def pieces (text : String) : List (List Char) :=
  text.toList.splitOn '.'

theorem pieces_eq (text : String) : pieces text = Text.splitOn '.' text.toList :=
  (Text.splitOn_eq '.' text.toList).symm

/-- The pieces with dots between them are the text. -/
theorem join_pieces (text : String) : String.ofList (Text.join ['.'] (pieces text)) = text := by
  rw [pieces_eq, Text.join_splitOn, String.ofList_toList]

/-- The pieces between the dots are the digits of the arcs. -/
theorem pieces_toText {oid : ObjectIdentifier} (filled : oid.arcs ≠ []) :
    pieces oid.toText = oid.arcs.map fun arc => Nat.toDigits 10 arc.toNat := by
  rw [pieces_eq, toText, String.toList_ofList]
  refine Text.splitOn_join (mt List.map_eq_nil_iff.1 filled) fun piece member dot => ?_
  obtain ⟨arc, -, rfl⟩ := List.mem_map.1 member
  exact absurd (Text.isDigit_of_mem_toDigits dot) (by decide)

/-- A text is that of some arcs if its pieces are their digits. -/
theorem toText_eq_iff {oid : ObjectIdentifier} {text : String} (filled : oid.arcs ≠ []) :
    oid.toText = text ↔
      pieces text = oid.arcs.map fun arc => Nat.toDigits 10 arc.toNat := by
  constructor
  · rintro rfl
    exact pieces_toText filled
  · intro same
    rw [toText, ← same, join_pieces]

/-! ### Texts that are read -/

variable {text : String} {oid : ObjectIdentifier}

/-- A piece is read as an arc if it is a numeral of it. -/
theorem readArc_eq_ok_iff {piece : List Char} {arc : UInt64} :
    (match Text.boundedNumeral? arcBound piece with
      | some arc => .ok (UInt64.ofNat arc)
      | none => .error (.invalidArc (String.ofList piece)) : Except Fault UInt64) = .ok arc ↔
      Text.IsNumeral piece arc.toNat := by
  have fits : arc.toNat < arcBound := arc.toNat_lt
  constructor
  · intro read
    split at read
    · next value found =>
      obtain ⟨numeral, small⟩ := Text.boundedNumeral?_eq_some_iff.1 found
      obtain rfl := Except.ok.inj read
      rwa [UInt64.toNat_ofNat_of_lt' small]
    · cases read
  · intro numeral
    rw [Text.boundedNumeral?_eq_some_iff.2 ⟨numeral, fits⟩]
    exact congrArg Except.ok UInt64.ofNat_toNat

/-- **A text is read if each piece between its dots is a numeral of an arc,** and there are two of
them at least. -/
theorem ofText_eq_ok_iff :
    ofText text = .ok oid ↔
      2 ≤ oid.arcs.length ∧
        List.Forall₂ (fun piece arc => Text.IsNumeral piece arc.toNat) (pieces text) oid.arcs := by
  unfold ofText
  split
  · next empty =>
    refine ⟨nofun, fun ⟨two, each⟩ => ?_⟩
    -- Nothing is a single piece.
    rw [String.isEmpty_iff.1 empty] at each
    have single : 1 = oid.arcs.length := each.length_eq
    omega
  · rw [Except.bind_eq_ok_iff, ← pieces_eq]
    constructor
    · rintro ⟨arcs, each, made⟩
      split at made
      · cases made
      next two =>
      obtain rfl := Except.ok.inj made
      exact ⟨Nat.not_lt.1 two, (Except.mapM_eq_ok_iff.1 each).imp fun _ _ => readArc_eq_ok_iff.1⟩
    · rintro ⟨two, each⟩
      refine ⟨oid.arcs, Except.mapM_eq_ok_iff.2 ?_, if_neg (Nat.not_lt.2 two)⟩
      exact each.imp fun _ _ => readArc_eq_ok_iff.2

/-- **A text is read exactly if it has two pieces at least and each of them is a numeral that fits
in an arc.** -/
theorem exists_ofText_iff :
    (∃ oid, ofText text = .ok oid) ↔
      2 ≤ (pieces text).length ∧
        ∀ piece ∈ pieces text, ∃ value < arcBound, Text.IsNumeral piece value := by
  constructor
  · rintro ⟨oid, read⟩
    obtain ⟨two, each⟩ := ofText_eq_ok_iff.1 read
    rw [each.length_eq]
    exact ⟨two, each.flip.forall_mem fun arc piece numeral => ⟨arc.toNat, arc.toNat_lt, numeral⟩⟩
  · rintro ⟨two, each⟩
    have spelled : ∀ piece ∈ pieces text, ∃ arc : UInt64, Text.IsNumeral piece arc.toNat := by
      intro piece member
      obtain ⟨value, fits, numeral⟩ := each piece member
      exact ⟨UInt64.ofNat value, (UInt64.toNat_ofNat_of_lt' fits).symm ▸ numeral⟩
    obtain ⟨arcs, numerals⟩ := List.exists_forall₂ spelled
    rw [numerals.length_eq] at two
    exact ⟨⟨arcs⟩, ofText_eq_ok_iff.2 ⟨two, numerals⟩⟩

/-- **The dotted text of an object identifier reads back,** if it has two arcs at least. -/
theorem ofText_toText (two : 2 ≤ oid.arcs.length) : ofText oid.toText = .ok oid := by
  have filled : oid.arcs ≠ [] := List.ne_nil_of_length_pos (Nat.zero_lt_of_lt two)
  refine ofText_eq_ok_iff.2 ⟨two, ?_⟩
  rw [pieces_toText filled, List.forall₂_map_left_iff, List.forall₂_same]
  exact fun arc _ => Text.isNumeral_toDigits arc.toNat

/-- **A text that was read is written again** exactly if no piece of it has a plus sign in front or
a zero that could be left out. -/
theorem toText_eq_iff_of_ofText (read : ofText text = .ok oid) :
    oid.toText = text ↔
      ∀ piece ∈ pieces text, piece.head? ≠ some '+' ∧ ¬ Text.IsPadded piece := by
  obtain ⟨two, numerals⟩ := ofText_eq_ok_iff.1 read
  have filled : oid.arcs ≠ [] := List.ne_nil_of_length_pos (Nat.zero_lt_of_lt two)
  rw [toText_eq_iff filled, ← List.forall₂_eq_eq_eq, List.forall₂_map_right_iff]
  exact numerals.iff_forall_mem fun piece arc numeral => numeral.eq_toDigits_iff

/-- **The dotted text identifies an object identifier.** One with two arcs at least is read from
its text, and different ones have different texts. The arcs that a text is read as are the numbers
that its pieces spell, and it is their text again exactly if no piece has a plus sign in front or a
zero that could be left out. A text is read exactly if there are two pieces between its dots at
least and each of them is a numeral below `2 ^ 64`. -/
theorem dottedText_laws :
    (∀ oid : ObjectIdentifier, 2 ≤ oid.arcs.length → ofText oid.toText = .ok oid) ∧
    (∀ one two : ObjectIdentifier, one.toText = two.toText ↔ one = two) ∧
    (∀ text oid, ofText text = .ok oid →
      List.Forall₂ (fun piece arc => Text.IsNumeral piece arc.toNat) (pieces text) oid.arcs ∧
      (oid.toText = text ↔
        ∀ piece ∈ pieces text, piece.head? ≠ some '+' ∧ ¬ Text.IsPadded piece)) ∧
    (∀ text, (∃ oid, ofText text = .ok oid) ↔
      2 ≤ (pieces text).length ∧
        ∀ piece ∈ pieces text, ∃ value < 2 ^ 64, Text.IsNumeral piece value) := by
  refine ⟨fun _ => ofText_toText, fun one two => ?_, fun text oid read => ?_,
    fun _ => exists_ofText_iff⟩
  · exact ⟨toText_injective, congrArg toText⟩
  · exact ⟨(ofText_eq_ok_iff.1 read).2, toText_eq_iff_of_ofText read⟩

/-- A plus sign and a zero in front are read and left out of the text. The largest arc is read, and
the number after it is not. -/
theorem dottedText_laws_largest :
    let text := "+2.0999.18446744073709551615"
    let oid : ObjectIdentifier := ⟨[2, 999, 18446744073709551615]⟩
    ofText text = .ok oid ∧ oid.toText ≠ text ∧ 2 ≤ oid.arcs.length ∧
      ofText oid.toText = .ok oid ∧ ¬ ∃ oid, ofText "2.18446744073709551616" = .ok oid := by
  intro text oid
  obtain ⟨again, -, readings, accepted⟩ := dottedText_laws
  have read : ofText text = .ok oid := by decide +kernel
  have two : 2 ≤ oid.arcs.length := by decide
  refine ⟨read, fun same => ?_, two, again oid two, fun some => ?_⟩
  · have plain := (readings text oid read).2.1 same ['+', '2'] (by decide +kernel)
    exact plain.1 rfl
  · obtain ⟨-, each⟩ := (accepted _).1 some
    obtain ⟨value, fits, numeral⟩ := each "18446744073709551616".toList (by decide +kernel)
    have found := Text.boundedNumeral?_eq_some_iff.2 ⟨numeral, fits⟩
    have none : Text.boundedNumeral? (2 ^ 64) "18446744073709551616".toList = none := by
      decide +kernel
    rw [none] at found
    cases found

end X509.ObjectIdentifier
