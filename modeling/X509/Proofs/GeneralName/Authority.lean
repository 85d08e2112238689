/-
**The parts of a resource identifier.**

A scheme ends at the first colon, since it has none of its own. The authority ends at the first
character that may end it, the user at the last at sign, and the host at the first colon, or at the
first closing bracket when it starts with an opening one. So a text that is put together from such
parts comes apart into them, and every host that is found is the host among the parts of the text.

* `Uri.afterScheme?_eq_some_iff` — texts with a scheme.
* `Uri.hostOfAuthority?_eq_some_iff` — the host in an authority.
* `Uri.host?_eq_some_iff_hasHost` — the host of a text with a scheme.
-/

import Mathlib.Data.List.TakeWhile
import X509.GeneralName.Host

namespace X509.Uri

variable {text rest host part authority : List Char}

/-! ### Schemes -/

/-- A text that starts with a scheme and a colon. -/
def HasScheme (text : List Char) : Prop :=
  ∃ scheme rest, text = scheme ++ ':' :: rest ∧ isScheme scheme = true

theorem colon_not_mem_of_isScheme {scheme : List Char} (valid : isScheme scheme = true) :
    ':' ∉ scheme := by
  intro colon
  cases scheme with
  | nil => cases colon
  | cons first others =>
    obtain ⟨letter, each⟩ := Bool.and_eq_true_iff.1 valid
    rcases List.mem_cons.1 colon with rfl | later
    · exact absurd letter (by decide)
    · exact absurd (List.all_eq_true.1 each ':' later) (by decide)

/-- Behind a scheme and a colon the rest is found again. -/
theorem afterScheme?_append {scheme : List Char} (valid : isScheme scheme = true)
    (rest : List Char) : afterScheme? (scheme ++ ':' :: rest) = some rest := by
  have free : ∀ c ∈ scheme, (c == ':') = false := by
    intro c inside
    refine beq_eq_false_iff_ne.2 ?_
    rintro rfl
    exact colon_not_mem_of_isScheme valid inside
  rw [afterScheme?, Text.splitFirst?_append_cons free (beq_self_eq_true ':')]
  exact if_pos valid

/-- **What follows the scheme is what follows the first colon.** -/
theorem afterScheme?_eq_some_iff :
    afterScheme? text = some rest ↔
      ∃ scheme, text = scheme ++ ':' :: rest ∧ isScheme scheme = true := by
  constructor
  · intro found
    unfold afterScheme? at found
    split at found
    · next scheme after split =>
      obtain ⟨-, c, hit, rfl⟩ := Text.splitFirst?_eq_some split
      obtain rfl : c = ':' := eq_of_beq hit
      split at found
      · next valid =>
        obtain rfl := Option.some.inj found
        exact ⟨scheme, rfl, valid⟩
      · cases found
    · cases found
  · rintro ⟨scheme, rfl, valid⟩
    exact afterScheme?_append valid rest

theorem isSome_afterScheme?_iff : (afterScheme? text).isSome = true ↔ HasScheme text := by
  rw [Option.isSome_iff_exists]
  constructor
  · rintro ⟨rest, found⟩
    obtain ⟨scheme, same, valid⟩ := afterScheme?_eq_some_iff.1 found
    exact ⟨scheme, rest, same, valid⟩
  · rintro ⟨scheme, rest, same, valid⟩
    exact ⟨rest, afterScheme?_eq_some_iff.2 ⟨scheme, same, valid⟩⟩

theorem afterScheme?_eq_none_iff : afterScheme? text = none ↔ ¬ HasScheme text := by
  rw [← isSome_afterScheme?_iff, Bool.not_eq_true, Option.isSome_eq_false_iff,
    Option.isNone_iff_eq_none]

/-! ### Authorities -/

/-- What is taken of a text while a test holds: a part of it where the test holds throughout, before
an end or a character where it does not. -/
theorem takeWhile_eq_iff {holds : Char → Bool} {front : List Char} :
    text.takeWhile holds = front ↔
      (∀ c ∈ front, holds c = true) ∧
        ∃ tail, text = front ++ tail ∧ ∀ c ∈ tail.head?, holds c = false := by
  constructor
  · rintro rfl
    refine ⟨fun c => List.mem_takeWhile_imp, text.dropWhile holds,
      List.takeWhile_append_dropWhile.symm, fun c first => ?_⟩
    have stop := List.head?_dropWhile_not holds text
    rw [Option.mem_def.1 first] at stop
    exact stop
  · rintro ⟨each, tail, rfl, stop⟩
    rw [List.takeWhile_append_of_pos each]
    cases tail with
    | nil => rw [List.takeWhile_nil, List.append_nil]
    | cons c tail =>
      rw [List.takeWhile_cons, stop c rfl, if_neg Bool.false_ne_true, List.append_nil]

/-- What may stand in front of a host: nothing, or a user and an at sign. -/
inductive IsUser : List Char → Prop where
  | absent : IsUser []
  | named (user : List Char) : IsUser (user ++ ['@'])

/-- A host as it stands behind the user: alone, with a port, or between brackets. -/
inductive IsHostPart (host : List Char) : List Char → Prop where
  | alone (plain : host.head? ≠ some '[') (free : ':' ∉ host) : IsHostPart host host
  | ported (plain : host.head? ≠ some '[') (free : ':' ∉ host) (port : List Char) :
      IsHostPart host (host ++ ':' :: port)
  | bracketed (free : ']' ∉ host) (rest : List Char) :
      IsHostPart host ('[' :: (host ++ ']' :: rest))

/-- **An authority and the host in it.** The user may hold at signs, the rest none. -/
def IsAuthority (host authority : List Char) : Prop :=
  ∃ user part, authority = user ++ part ∧ IsUser user ∧ '@' ∉ part ∧ IsHostPart host part

/-- The user of an authority ends at the last at sign. -/
theorem exists_user (authority : List Char) :
    ∃ user part, authority = user ++ part ∧ IsUser user ∧ '@' ∉ part := by
  cases split : Text.splitLast? '@' authority with
  | none => exact ⟨[], authority, rfl, .absent, Text.splitLast?_eq_none_iff.1 split⟩
  | some parts =>
    obtain ⟨user, part⟩ := parts
    obtain ⟨free, same⟩ := Text.splitLast?_eq_some split
    refine ⟨user ++ ['@'], part, ?_, .named user, free⟩
    rw [same, List.append_assoc, List.singleton_append]

/-- The user does not matter to the host. -/
theorem hostOfAuthority?_append {user : List Char} (front : IsUser user) (free : '@' ∉ part) :
    hostOfAuthority? (user ++ part) = hostOfAuthority? part := by
  cases front with
  | absent => rfl
  | named user =>
    rw [List.append_assoc, List.singleton_append, hostOfAuthority?,
      Text.splitLast?_append_cons free, hostOfAuthority?, Text.splitLast?_eq_none_iff.2 free]

theorem hostOfAuthority?_bracket (free : '@' ∉ '[' :: part) :
    hostOfAuthority? ('[' :: part) = (Text.splitFirst? (· == ']') part).map Prod.fst := by
  rw [hostOfAuthority?, Text.splitLast?_eq_none_iff.2 free]
  rfl

theorem hostOfAuthority?_plain (free : '@' ∉ part) (plain : part.head? ≠ some '[') :
    hostOfAuthority? part = some (part.takeWhile (· != ':')) := by
  rw [hostOfAuthority?, Text.splitLast?_eq_none_iff.2 free]
  dsimp only
  split
  · next opens => exact absurd (congrArg List.head? opens) plain
  · rfl

/-- A text without a colon is what is taken of it, and of it with a port. -/
theorem takeWhile_of_colon_not_mem {tail : List Char} (free : ':' ∉ host)
    (stop : ∀ c ∈ tail.head?, c = ':') : (host ++ tail).takeWhile (· != ':') = host := by
  refine takeWhile_eq_iff.2 ⟨fun c inside => bne_iff_ne.2 ?_, tail, rfl, fun c first => ?_⟩
  · rintro rfl
    exact free inside
  · rw [stop c first]
    rfl

/-- **Without a user the host goes up to the closing bracket, or to the first colon.** -/
theorem hostOfAuthority?_eq_some_iff_of_free (free : '@' ∉ part) :
    hostOfAuthority? part = some host ↔ IsHostPart host part := by
  constructor
  · intro found
    by_cases opens : part.head? = some '['
    · obtain ⟨text, rfl⟩ := List.head?_eq_some_iff.1 opens
      rw [hostOfAuthority?_bracket free] at found
      obtain ⟨⟨front, rest⟩, split, same⟩ := Option.map_eq_some_iff.1 found
      obtain ⟨unclosed, c, hit, rfl⟩ := Text.splitFirst?_eq_some split
      obtain rfl : c = ']' := eq_of_beq hit
      obtain rfl : front = host := same
      exact .bracketed (fun inside => absurd (unclosed ']' inside) (by decide)) rest
    · rw [hostOfAuthority?_plain free opens] at found
      obtain ⟨each, tail, rfl, stop⟩ := takeWhile_eq_iff.1 (Option.some.inj found)
      have colonless : ':' ∉ host := fun inside => absurd (each ':' inside) (by decide)
      have plain : host.head? ≠ some '[' := by
        intro first
        obtain ⟨others, rfl⟩ := List.head?_eq_some_iff.1 first
        exact opens rfl
      cases tail with
      | nil =>
        rw [List.append_nil]
        exact .alone plain colonless
      | cons c port =>
        obtain rfl : c = ':' := by simpa using stop
        exact .ported plain colonless port
  · intro shape
    cases shape with
    | alone plain colonless =>
      have whole : (host ++ []).takeWhile (· != ':') = host :=
        takeWhile_of_colon_not_mem colonless nofun
      rw [List.append_nil] at whole
      rw [hostOfAuthority?_plain free plain, whole]
    | ported plain colonless port =>
      have first : (host ++ ':' :: port).head? ≠ some '[' := by
        cases host with
        | nil => simp
        | cons c others => exact plain
      rw [hostOfAuthority?_plain free first, takeWhile_of_colon_not_mem colonless (by simp)]
    | bracketed unclosed rest =>
      have inner : ∀ c ∈ host, (c == ']') = false := by
        intro c inside
        refine beq_eq_false_iff_ne.2 ?_
        rintro rfl
        exact unclosed inside
      rw [hostOfAuthority?_bracket free, Text.splitFirst?_append_cons inner (beq_self_eq_true ']')]
      rfl

/-- **The host in an authority.** -/
theorem hostOfAuthority?_eq_some_iff :
    hostOfAuthority? authority = some host ↔ IsAuthority host authority := by
  constructor
  · intro found
    obtain ⟨user, part, rfl, front, free⟩ := exists_user authority
    rw [hostOfAuthority?_append front free] at found
    exact ⟨user, part, rfl, front, free, (hostOfAuthority?_eq_some_iff_of_free free).1 found⟩
  · rintro ⟨user, part, rfl, front, free, shape⟩
    rw [hostOfAuthority?_append front free]
    exact (hostOfAuthority?_eq_some_iff_of_free free).2 shape

/-! ### Hosts -/

/-- **A resource identifier and the host in it:** a scheme, a colon, two slashes and an authority
that the text ends with, or a slash, a question mark or a number sign. -/
def HasHost (text host : List Char) : Prop :=
  ∃ scheme authority tail, text = scheme ++ ':' :: '/' :: '/' :: (authority ++ tail) ∧
    isScheme scheme = true ∧ (∀ c ∈ authority, endsAuthority c = false) ∧
      (∀ c ∈ tail.head?, endsAuthority c = true) ∧ IsAuthority host authority ∧ host ≠ []

/-- Behind two slashes the authority stands. -/
theorem host?_eq_some_iff_of_slashes (after : afterScheme? text = some ('/' :: '/' :: rest)) :
    host? text = some host ↔
      IsAuthority host (rest.takeWhile fun c => !endsAuthority c) ∧ host ≠ [] := by
  rw [host?, after]
  refine Option.filter_eq_some_iff.trans ?_
  rw [hostOfAuthority?_eq_some_iff, Bool.not_eq_true', List.isEmpty_eq_false_iff]

/-- **The host of a text with a scheme is the host among its parts.** -/
theorem host?_eq_some_iff_hasHost (schemed : HasScheme text) :
    host? text = some host ↔ HasHost text host := by
  constructor
  · intro found
    obtain ⟨scheme, rest, rfl, valid⟩ := schemed
    have after := afterScheme?_append valid rest
    have slashes : ∃ behind, rest = '/' :: '/' :: behind := by
      rw [host?, after] at found
      split at found
      · next none => cases none
      · next behind same => exact ⟨behind, Option.some.inj same⟩
      · cases found
    obtain ⟨behind, rfl⟩ := slashes
    obtain ⟨shape, filled⟩ := (host?_eq_some_iff_of_slashes after).1 found
    obtain ⟨authority, taken⟩ : ∃ authority, behind.takeWhile (fun c => !endsAuthority c) =
        authority := ⟨_, rfl⟩
    rw [taken] at shape
    obtain ⟨each, tail, rfl, stop⟩ := takeWhile_eq_iff.1 taken
    refine ⟨scheme, authority, tail, rfl, valid, ?_, ?_, shape, filled⟩
    · exact fun c inside => by simpa using each c inside
    · exact fun c first => by simpa using stop c first
  · rintro ⟨scheme, authority, tail, rfl, valid, inside, stop, shape, filled⟩
    have after := afterScheme?_append valid ('/' :: '/' :: (authority ++ tail))
    have taken : (authority ++ tail).takeWhile (fun c => !endsAuthority c) = authority := by
      refine takeWhile_eq_iff.2 ⟨fun c member => ?_, tail, rfl, fun c first => ?_⟩
      · rw [inside c member]
        rfl
      · rw [stop c first]
        rfl
    rw [host?_eq_some_iff_of_slashes after, taken]
    exact ⟨shape, filled⟩

end X509.Uri
