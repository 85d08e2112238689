/-
**Splitting texts at characters.**

Texts are taken apart as lists of characters: into all pieces between separators, or in two at the
first or the last separator.

* `splitOn_eq` — the pieces are those of `List.splitOn`.
* `join_splitOn` — the pieces and the separators between them give back the text.
* `splitOn_join` — pieces without the separator are found again.
* `splitFirst?_eq_some`, `splitLast?_eq_some` — a split in two loses nothing and happens at the
  first or the last place where the separator stands.
* `splitWhere_map`, `splitLast?_map` — a change of characters that keeps the separators keeps the
  places.
-/

namespace X509.Text

/-! ### All pieces -/

/-- The pieces of a text between the characters that `separates` selects. A text with `n` such
characters has `n + 1` pieces. -/
def splitWhere (separates : Char → Bool) : List Char → List (List Char)
  | [] => [[]]
  | c :: rest =>
    if separates c then
      [] :: splitWhere separates rest
    else
      match splitWhere separates rest with
      | [] => [[c]]
      | piece :: pieces => (c :: piece) :: pieces

/-- The pieces of a text between the occurrences of one character. -/
def splitOn (separator : Char) (text : List Char) : List (List Char) :=
  splitWhere (· == separator) text

theorem splitWhere_ne_nil (separates : Char → Bool) (text : List Char) :
    splitWhere separates text ≠ [] := by
  cases text with
  | nil => simp [splitWhere]
  | cons c rest =>
    rw [splitWhere]
    split
    · simp
    · split <;> simp

/-- The pieces between the occurrences of a character are those of `List.splitOn`. -/
theorem splitOn_eq (separator : Char) (text : List Char) :
    splitOn separator text = text.splitOn separator := by
  unfold splitOn
  induction text with
  | nil => rfl
  | cons c rest ih =>
    rw [splitWhere, List.splitOn_cons_eq_if_modifyHead, ih]
    split
    · rfl
    · cases pieces : rest.splitOn separator with
      | nil => exact absurd pieces (List.splitOn_ne_nil separator rest)
      | cons piece others => rfl

/-- Between separators a piece holds none of them. -/
theorem forall_mem_splitWhere {separates : Char → Bool} {text piece : List Char}
    (member : piece ∈ splitWhere separates text) : ∀ c ∈ piece, separates c = false := by
  induction text generalizing piece with
  | nil => simp_all [splitWhere]
  | cons c rest ih =>
    rw [splitWhere] at member
    split at member
    · rcases List.mem_cons.1 member with rfl | member
      · simp
      · exact ih member
    · next other =>
      split at member
      · obtain rfl := List.mem_singleton.1 member
        simpa using other
      · next first pieces shape =>
        rcases List.mem_cons.1 member with rfl | member
        · intro d mem
          rcases List.mem_cons.1 mem with rfl | mem
          · simpa using other
          · exact ih (by simp [shape]) d mem
        · exact ih (by simp [shape, member])

/-- What maps separators to separators and nothing else to one maps the pieces. -/
theorem splitWhere_map {separates : Char → Bool} {f : Char → Char}
    (keeps : ∀ c, separates (f c) = separates c) (text : List Char) :
    splitWhere separates (text.map f) = (splitWhere separates text).map (List.map f) := by
  induction text with
  | nil => rfl
  | cons c rest ih =>
    rw [List.map_cons, splitWhere, splitWhere, keeps, ih]
    split
    · rfl
    · cases splitWhere separates rest <;> rfl

/-- The pieces with a separator between every two of them. -/
def join (separator : List Char) : List (List Char) → List Char
  | [] => []
  | [piece] => piece
  | piece :: next :: pieces => piece ++ separator ++ join separator (next :: pieces)

/-- **Splitting loses nothing.** -/
theorem join_splitOn (separator : Char) (text : List Char) :
    join [separator] (splitOn separator text) = text := by
  unfold splitOn
  induction text with
  | nil => rfl
  | cons c rest ih =>
    rw [splitWhere]
    split
    · next same =>
      obtain rfl : c = separator := by simpa using same
      cases shape : splitWhere (· == c) rest with
      | nil => exact absurd shape (splitWhere_ne_nil _ _)
      | cons piece pieces =>
        rw [shape] at ih
        simp [join, ih]
    · cases shape : splitWhere (· == separator) rest with
      | nil => exact absurd shape (splitWhere_ne_nil _ _)
      | cons piece pieces =>
        rw [shape] at ih
        cases pieces with
        | nil => simpa [join] using ih
        | cons next pieces => simpa [join] using ih

/-- A piece without the separator, and what follows the separator after it. -/
theorem splitOn_append {separator : Char} {piece : List Char} (free : separator ∉ piece)
    (rest : List Char) :
    splitOn separator (piece ++ separator :: rest) = piece :: splitOn separator rest := by
  unfold splitOn
  induction piece with
  | nil => simp [splitWhere]
  | cons c piece ih =>
    obtain ⟨differs, free⟩ := not_or.1 (mt List.mem_cons.2 free)
    simp [splitWhere, Ne.symm differs, ih free]

/-- A separator anywhere in a text splits its pieces into those before and those after it. -/
theorem splitOn_append_cons (separator : Char) (front back : List Char) :
    ∃ pieces, splitOn separator (front ++ separator :: back) =
      pieces ++ splitOn separator back ∧ pieces ≠ [] := by
  unfold splitOn
  induction front with
  | nil => exact ⟨[[]], by simp [splitWhere], by simp⟩
  | cons c front ih =>
    obtain ⟨pieces, split, filled⟩ := ih
    rw [List.cons_append, splitWhere, split]
    split
    · exact ⟨[] :: pieces, rfl, by simp⟩
    · cases pieces with
      | nil => exact absurd rfl filled
      | cons piece pieces => exact ⟨(c :: piece) :: pieces, rfl, by simp⟩

/-- A text without the separator is one piece. -/
theorem splitOn_of_not_mem {separator : Char} {text : List Char} (free : separator ∉ text) :
    splitOn separator text = [text] := by
  unfold splitOn
  induction text with
  | nil => rfl
  | cons c rest ih =>
    obtain ⟨differs, free⟩ := not_or.1 (mt List.mem_cons.2 free)
    simp [splitWhere, Ne.symm differs, ih free]

/-- **Pieces without the separator are found again.** -/
theorem splitOn_join {separator : Char} {pieces : List (List Char)} (filled : pieces ≠ [])
    (free : ∀ piece ∈ pieces, separator ∉ piece) :
    splitOn separator (join [separator] pieces) = pieces := by
  induction pieces with
  | nil => exact absurd rfl filled
  | cons piece pieces ih =>
    have first := free piece List.mem_cons_self
    cases pieces with
    | nil => exact splitOn_of_not_mem first
    | cons next pieces =>
      have others := ih (by simp) fun other member => free other (List.mem_cons_of_mem piece member)
      rw [join, List.append_assoc, List.singleton_append, splitOn_append first, others]

/-! ### Two parts -/

/-- The text before and after the first character that `separates` selects. -/
def splitFirst? (separates : Char → Bool) : List Char → Option (List Char × List Char)
  | [] => none
  | c :: rest =>
    if separates c then
      some ([], rest)
    else
      (splitFirst? separates rest).map fun (before, after) => (c :: before, after)

/-- The text before and after the last occurrence of a character. -/
def splitLast? (separator : Char) : List Char → Option (List Char × List Char)
  | [] => none
  | c :: rest =>
    match splitLast? separator rest with
    | some (before, after) => some (c :: before, after)
    | none => if c = separator then some ([], rest) else none

theorem splitFirst?_eq_none_iff {separates : Char → Bool} {text : List Char} :
    splitFirst? separates text = none ↔ ∀ c ∈ text, separates c = false := by
  induction text with
  | nil => simp [splitFirst?]
  | cons c rest ih =>
    rw [splitFirst?]
    split <;> simp_all

theorem splitFirst?_eq_some {separates : Char → Bool} {text before after : List Char}
    (split : splitFirst? separates text = some (before, after)) :
    (∀ c ∈ before, separates c = false) ∧
      ∃ c, separates c = true ∧ text = before ++ c :: after := by
  induction text generalizing before with
  | nil => simp [splitFirst?] at split
  | cons c rest ih =>
    rw [splitFirst?] at split
    split at split
    · next here =>
      obtain ⟨rfl, rfl⟩ := Prod.mk.inj (Option.some.inj split)
      exact ⟨by simp, c, here, rfl⟩
    · next other =>
      obtain ⟨⟨inner, tail⟩, found, equal⟩ := Option.map_eq_some_iff.1 split
      obtain ⟨rfl, rfl⟩ := Prod.mk.inj equal
      obtain ⟨free, d, hit, shape⟩ := ih found
      exact ⟨by simpa [other] using free, d, hit, by rw [shape, List.cons_append]⟩

/-- The first separator is the one that none stands before. -/
theorem splitFirst?_append_cons {separates : Char → Bool} {before : List Char} {c : Char}
    (free : ∀ d ∈ before, separates d = false) (hit : separates c = true) (after : List Char) :
    splitFirst? separates (before ++ c :: after) = some (before, after) := by
  induction before with
  | nil => rw [List.nil_append, splitFirst?, if_pos hit]
  | cons d before ih =>
    obtain ⟨here, others⟩ := List.forall_mem_cons.1 free
    rw [List.cons_append, splitFirst?, here, if_neg Bool.false_ne_true, ih others]
    rfl

theorem splitLast?_eq_none_iff {separator : Char} {text : List Char} :
    splitLast? separator text = none ↔ separator ∉ text := by
  induction text with
  | nil => simp [splitLast?]
  | cons c rest ih =>
    rw [splitLast?]
    cases found : splitLast? separator rest with
    | some parts =>
      have inside : separator ∈ rest := by
        by_cases mem : separator ∈ rest
        · exact mem
        · rw [ih.2 mem] at found
          cases found
      simp [inside]
    | none =>
      have outside := ih.1 found
      by_cases same : c = separator
      · simp [same]
      · simp [same, Ne.symm same, outside]

theorem splitLast?_eq_some {separator : Char} {text before after : List Char}
    (split : splitLast? separator text = some (before, after)) :
    separator ∉ after ∧ text = before ++ separator :: after := by
  induction text generalizing before with
  | nil => simp [splitLast?] at split
  | cons c rest ih =>
    rw [splitLast?] at split
    cases found : splitLast? separator rest with
    | some parts =>
      rw [found] at split
      obtain ⟨rfl, rfl⟩ := Prod.mk.inj (Option.some.inj split)
      obtain ⟨free, shape⟩ := ih found
      exact ⟨free, by rw [shape, List.cons_append]⟩
    | none =>
      rw [found] at split
      by_cases same : c = separator
      · obtain ⟨rfl, rfl⟩ := Prod.mk.inj (Option.some.inj (by simpa [same] using split))
        exact ⟨splitLast?_eq_none_iff.1 found, by rw [same, List.nil_append]⟩
      · simp [same] at split

/-- A separator that none follows is the last one. -/
theorem splitLast?_append_cons {separator : Char} {after : List Char} (free : separator ∉ after)
    (before : List Char) :
    splitLast? separator (before ++ separator :: after) = some (before, after) := by
  induction before with
  | nil => rw [List.nil_append, splitLast?, splitLast?_eq_none_iff.2 free, if_pos rfl]
  | cons c before ih => rw [List.cons_append, splitLast?, ih]

theorem splitLast?_map {separator : Char} {f : Char → Char}
    (keeps : ∀ c, f c = separator ↔ c = separator) (text : List Char) :
    splitLast? separator (text.map f) =
      (splitLast? separator text).map (Prod.map (List.map f) (List.map f)) := by
  induction text with
  | nil => rfl
  | cons c rest ih =>
    rw [List.map_cons, splitLast?, splitLast?, ih]
    cases splitLast? separator rest with
    | some parts => rfl
    | none =>
      by_cases same : c = separator
      · simp [same, (keeps separator).2 rfl]
      · simp [same, mt (keeps c).1 same]

end X509.Text
