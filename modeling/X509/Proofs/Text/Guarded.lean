/-
**Texts whose stops are escaped.**

A stop is a character that ends a piece of text, unless a backslash stands before it. A text is
guarded when every stop in it is escaped in this way. So where a guarded text ends is seen from what
follows it: the first stop that is not escaped is the one after it. Pieces that are guarded and not
empty are found again when they are joined by a stop, and the joined text is guarded against every
other stop.

* `Guarded.append_inj` — a guarded text and what follows it are told apart.
* `Guarded.join` — joining by a character that is no stop.
* `join_injective` — pieces that are joined by a stop are found again.
-/

import X509.Text.Split

namespace X509.Text

/-- **A text in which every stop stands after a backslash.** A backslash and the character after it
are taken together. -/
inductive Guarded (stops : Char → Bool) : List Char → Prop where
  | nil : Guarded stops []
  | plain {c : Char} {rest : List Char} (free : stops c = false) (bare : c ≠ '\\')
      (after : Guarded stops rest) : Guarded stops (c :: rest)
  | escaped (c : Char) {rest : List Char} (after : Guarded stops rest) :
      Guarded stops ('\\' :: c :: rest)

variable {stops : Char → Bool} {text one two tail tail' : List Char} {separator : Char}

/-- A text without stops and backslashes is guarded. -/
theorem Guarded.of_free (free : ∀ c ∈ text, stops c = false ∧ c ≠ '\\') : Guarded stops text := by
  induction text with
  | nil => exact .nil
  | cons c rest ih =>
    obtain ⟨plain, bare⟩ := free c List.mem_cons_self
    refine .plain plain bare (ih ?_)
    intro d member
    exact free d (List.mem_cons_of_mem c member)

theorem Guarded.append (first : Guarded stops one) (second : Guarded stops two) :
    Guarded stops (one ++ two) := by
  induction first with
  | nil => exact second
  | plain free bare _ ih => exact .plain free bare ih
  | escaped c _ ih => exact .escaped c ih

/-- A text that is guarded against some stops is guarded against fewer. -/
theorem Guarded.mono {fewer : Char → Bool} (guarded : Guarded stops text)
    (less : ∀ c, fewer c = true → stops c = true) : Guarded fewer text := by
  induction guarded with
  | nil => exact .nil
  | @plain c _ free bare _ ih =>
    refine .plain ?_ bare ih
    cases caught : fewer c with
    | false => rfl
    | true => simp [less c caught] at free
  | escaped c _ ih => exact .escaped c ih

/-- What begins with a stop, or is empty: it ends the guarded text before it. -/
def Ends (stops : Char → Bool) (tail : List Char) : Prop :=
  ∀ c ∈ tail.head?, stops c = true ∧ c ≠ '\\'

theorem ends_nil : Ends stops [] := by
  simp [Ends]

theorem ends_cons {c : Char} (stop : stops c = true) (bare : c ≠ '\\') (rest : List Char) :
    Ends stops (c :: rest) := by
  simp [Ends, stop, bare]

/-- What ends a text does not begin like a guarded one. -/
theorem Guarded.eq_nil_of_ends (guarded : Guarded stops text) (ends : Ends stops tail)
    (same : tail = text ++ tail') : text = [] := by
  cases guarded with
  | nil => rfl
  | plain free bare after =>
    obtain ⟨stop, -⟩ := ends _ (by rw [same]; rfl)
    simp [free] at stop
  | escaped c after =>
    obtain ⟨-, bare⟩ := ends '\\' (by rw [same]; rfl)
    exact absurd rfl bare

/-- **A guarded text and what follows it are told apart,** if what follows ends it. The two texts
are read side by side; a character of one cannot meet the end of the other. -/
theorem Guarded.append_inj (first : Guarded stops one) (second : Guarded stops two)
    (ends : Ends stops tail) (ends' : Ends stops tail') (same : one ++ tail = two ++ tail') :
    one = two ∧ tail = tail' := by
  induction first generalizing two with
  | nil =>
    obtain rfl := second.eq_nil_of_ends ends same
    exact ⟨rfl, same⟩
  | @plain c rest free bare after ih =>
    cases second with
    | nil =>
      have none := (Guarded.plain free bare after).eq_nil_of_ends ends' same.symm
      cases none
    | plain free' bare' after' =>
      obtain ⟨rfl, rests⟩ := List.cons.inj same
      obtain ⟨rfl, tails⟩ := ih after' rests
      exact ⟨rfl, tails⟩
    | escaped c' after' => exact absurd (List.cons.inj same).1 bare
  | @escaped c rest after ih =>
    cases second with
    | nil =>
      have none := (Guarded.escaped c after).eq_nil_of_ends ends' same.symm
      cases none
    | plain free' bare' after' => exact absurd (List.cons.inj same).1.symm bare'
    | escaped c' after' =>
      obtain ⟨-, inner⟩ := List.cons.inj same
      obtain ⟨rfl, rests⟩ := List.cons.inj inner
      obtain ⟨rfl, tails⟩ := ih after' rests
      exact ⟨rfl, tails⟩

/-! ### Joined texts -/

/-- The pieces after the first, each with a separator before it. -/
theorem join_cons_eq (separator : List Char) (piece : List Char) (pieces : List (List Char)) :
    join separator (piece :: pieces) =
      piece ++ if pieces = [] then [] else separator ++ join separator pieces := by
  cases pieces with
  | nil => simp [join]
  | cons next pieces => simp [join]

theorem join_ne_nil {separator : List Char} {pieces : List (List Char)} (some : pieces ≠ [])
    (filled : ∀ piece ∈ pieces, piece ≠ []) : join separator pieces ≠ [] := by
  cases pieces with
  | nil => exact absurd rfl some
  | cons piece pieces =>
    intro empty
    rw [join_cons_eq] at empty
    exact filled piece List.mem_cons_self (List.append_eq_nil_iff.1 empty).1

/-- The characters of joined pieces are those of the pieces and of the separator. -/
theorem mem_of_mem_join {separator : List Char} {pieces : List (List Char)} {c : Char}
    (member : c ∈ join separator pieces) : c ∈ separator ∨ ∃ piece ∈ pieces, c ∈ piece := by
  induction pieces with
  | nil => cases member
  | cons piece pieces ih =>
    rw [join_cons_eq, List.mem_append] at member
    rcases member with here | later
    · exact .inr ⟨piece, List.mem_cons_self, here⟩
    · split at later
      · cases later
      · rcases List.mem_append.1 later with between | inside
        · exact .inl between
        · rcases ih inside with between | ⟨other, found, inner⟩
          · exact .inl between
          · exact .inr ⟨other, List.mem_cons_of_mem piece found, inner⟩

/-- **Guarded pieces joined by a character that is no stop are guarded.** -/
theorem Guarded.join {pieces : List (List Char)} (free : stops separator = false)
    (bare : separator ≠ '\\') (guarded : ∀ piece ∈ pieces, Guarded stops piece) :
    Guarded stops (join [separator] pieces) := by
  induction pieces with
  | nil => exact .nil
  | cons piece pieces ih =>
    have first := guarded piece List.mem_cons_self
    have others := ih fun other member => guarded other (List.mem_cons_of_mem piece member)
    rw [join_cons_eq]
    refine first.append ?_
    split
    · exact .nil
    · exact .plain free bare others

/-- **Guarded pieces joined by a stop are found again,** if none is empty. -/
theorem join_injective {pieces pieces' : List (List Char)} (stop : stops separator = true)
    (bare : separator ≠ '\\') (guarded : ∀ piece ∈ pieces, Guarded stops piece ∧ piece ≠ [])
    (guarded' : ∀ piece ∈ pieces', Guarded stops piece ∧ piece ≠ [])
    (same : join [separator] pieces = join [separator] pieces') : pieces = pieces' := by
  induction pieces generalizing pieces' with
  | nil =>
    by_cases none : pieces' = []
    · rw [none]
    · exact absurd same.symm (join_ne_nil none fun piece member => (guarded' piece member).2)
  | cons piece pieces ih =>
    cases pieces' with
    | nil => exact absurd same (join_ne_nil (by simp) fun piece member => (guarded piece member).2)
    | cons piece' pieces' =>
      have ends (rest : List (List Char)) :
          Ends stops (if rest = [] then [] else [separator] ++ join [separator] rest) := by
        split
        · exact ends_nil
        · exact ends_cons stop bare _
      rw [join_cons_eq, join_cons_eq] at same
      obtain ⟨rfl, tails⟩ := Guarded.append_inj (guarded piece List.mem_cons_self).1
        (guarded' piece' List.mem_cons_self).1 (ends pieces) (ends pieces') same
      by_cases last : pieces = [] <;> by_cases last' : pieces' = []
      · rw [last, last']
      · simp [last, last'] at tails
      · simp [last, last'] at tails
      · rw [if_neg last, if_neg last'] at tails
        rw [ih (fun other member => guarded other (List.mem_cons_of_mem piece member))
          (fun other member => guarded' other (List.mem_cons_of_mem piece member))
          (List.append_cancel_left tails)]

end X509.Text
