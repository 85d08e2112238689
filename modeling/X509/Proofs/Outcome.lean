/-
**When a computation that may fail succeeds.**

A chain of steps succeeds exactly when every step does. The lemmas take a successful chain apart
into its steps, and a successful pass over a list into one success for each member.

* `Except.bind_eq_ok_iff`, `Except.map_eq_ok_iff`, `Except.mapError_eq_ok_iff` — one step.
* `Except.mapM_eq_ok_iff`, `Except.mapM_eq_ok_iff_of_forall₂` — a list, and the way back.
* `List.exists_forall₂`, `List.Forall₂.forall_mem`, `List.Forall₂.imp_of_mem`,
  `List.Forall₂.iff_forall_mem` — lists of results, member by member.
* `List.Forall₂.filter_eq_self` — a result that may be absent, and is kept.
-/

import Mathlib.Data.List.Forall2

/-- What every member of a list has can be listed. -/
theorem List.exists_forall₂ {α β : Type} {relates : α → β → Prop} {members : List α}
    (each : ∀ member ∈ members, ∃ result, relates member result) :
    ∃ results, Forall₂ relates members results := by
  induction members with
  | nil => exact ⟨[], .nil⟩
  | cons member members ih =>
    obtain ⟨⟨result, here⟩, others⟩ := List.forall_mem_cons.1 each
    obtain ⟨results, there⟩ := ih others
    exact ⟨result :: results, .cons here there⟩

/-- What every result has holds of the results in a list. -/
theorem List.Forall₂.forall_mem {α β : Type} {relates : α → β → Prop} {holds : β → Prop}
    {members : List α} {results : List β} (each : Forall₂ relates members results)
    (imply : ∀ member result, relates member result → holds result) :
    ∀ result ∈ results, holds result := by
  induction each with
  | nil => nofun
  | cons here _ ih => exact List.forall_mem_cons.2 ⟨imply _ _ here, ih⟩

/-- What is implied for members of the two lists is implied for all of them. -/
theorem List.Forall₂.imp_of_mem {α β : Type} {relates implied : α → β → Prop} {members : List α}
    {results : List β} (each : Forall₂ relates members results)
    (imply : ∀ member ∈ members, ∀ result ∈ results, relates member result →
      implied member result) : Forall₂ implied members results := by
  induction each with
  | nil => exact .nil
  | cons here _ ih =>
    refine .cons (imply _ mem_cons_self _ mem_cons_self here) (ih ?_)
    intro member inside result inside'
    exact imply member (mem_cons_of_mem _ inside) result (mem_cons_of_mem _ inside')

/-- What two lists have together, member by member, is a condition on the members if it is one for
each of them. -/
theorem List.Forall₂.iff_forall_mem {α β : Type} {relates implied : α → β → Prop} {holds : α → Prop}
    {members : List α} {results : List β} (each : Forall₂ relates members results)
    (same : ∀ member result, relates member result → (implied member result ↔ holds member)) :
    Forall₂ implied members results ↔ ∀ member ∈ members, holds member := by
  induction each with
  | nil => simp
  | cons here _ ih => rw [forall₂_cons, forall_mem_cons, same _ _ here, ih]

/-- A value that may be absent passes a filter, if the members it comes from tell so. -/
theorem List.Forall₂.filter_eq_self {α β : Type} {relates : α → β → Prop} {keeps : β → Bool}
    {members : List α} {value? : Option β} (each : Forall₂ relates members value?.toList)
    (imply : ∀ member value, relates member value → keeps value = true) :
    value?.filter keeps = value? := by
  cases value? with
  | none => rfl
  | some value => exact if_pos (each.forall_mem imply value (mem_singleton_self value))

namespace Except

variable {ε ε' α β : Type}

theorem bind_eq_ok_iff {step : Except ε α} {next : α → Except ε β} {result : β} :
    step >>= next = .ok result ↔ ∃ value, step = .ok value ∧ next value = .ok result := by
  cases step with
  | error fault => exact ⟨nofun, nofun⟩
  | ok value =>
    constructor
    · intro done
      exact ⟨value, rfl, done⟩
    · rintro ⟨_, same, done⟩
      obtain rfl := Except.ok.inj same
      exact done

theorem map_eq_ok_iff {step : Except ε α} {f : α → β} {result : β} :
    step.map f = .ok result ↔ ∃ value, step = .ok value ∧ f value = result := by
  cases step with
  | error fault => exact ⟨nofun, nofun⟩
  | ok value =>
    refine ⟨fun done => ⟨value, rfl, Except.ok.inj done⟩, ?_⟩
    rintro ⟨_, same, rfl⟩
    cases same
    rfl

theorem mapError_eq_ok_iff {step : Except ε α} {f : ε → ε'} {result : α} :
    step.mapError f = .ok result ↔ step = .ok result := by
  cases step with
  | error fault => exact ⟨nofun, nofun⟩
  | ok value => exact ⟨fun done => by cases done; rfl, fun same => by cases same; rfl⟩

/-- **A pass over a list succeeds when it succeeds at every member.** -/
theorem mapM_eq_ok_iff {f : α → Except ε β} {members : List α} {results : List β} :
    members.mapM f = .ok results ↔
      List.Forall₂ (fun member result => f member = .ok result) members results := by
  induction members generalizing results with
  | nil =>
    rw [List.mapM_nil, List.forall₂_nil_left_iff]
    exact ⟨fun done => (Except.ok.inj done).symm, fun same => by rw [same]; rfl⟩
  | cons member members ih =>
    rw [List.mapM_cons, List.forall₂_cons_left_iff, bind_eq_ok_iff]
    constructor
    · rintro ⟨first, here, rest⟩
      obtain ⟨others, there, whole⟩ := bind_eq_ok_iff.1 rest
      exact ⟨first, others, here, ih.1 there, (Except.ok.inj whole).symm⟩
    · rintro ⟨first, others, here, there, rfl⟩
      exact ⟨first, here, bind_eq_ok_iff.2 ⟨others, ih.2 there, rfl⟩⟩

/-- **What every result is written as is a pass over the results,** and it succeeds on the list when
the members have what makes each of them succeed. -/
theorem mapM_eq_ok_iff_of_forall₂ {relates : α → β → Prop} {holds : α → Prop}
    {write : β → Except ε α} {members : List α} {results : List β}
    (each : List.Forall₂ relates members results)
    (undone : ∀ member result, relates member result → (write result = .ok member ↔ holds member)) :
    results.mapM write = .ok members ↔ ∀ member ∈ members, holds member := by
  rw [mapM_eq_ok_iff, ← each.iff_forall_mem undone]
  exact ⟨List.Forall₂.flip, List.Forall₂.flip⟩

end Except
