/-
**The host of a resource identifier.**

A scheme is a letter and then letters, digits, plus signs, hyphens and dots, up to the first colon.
After it two slashes introduce the authority, which reaches to the first slash, question mark or
number sign; in it the host stands after the last at sign and before the first colon, or between
brackets. A text without a scheme is a host or a domain as it stands.

* `Uri.host?_of_no_scheme` — the reading of a text without a scheme.
-/

import X509.Text.Split

namespace X509.Uri

/-- Whether a text is the scheme of a resource identifier. -/
def isScheme : List Char → Bool
  | [] => false
  | first :: rest => first.isAlpha && rest.all fun c => c.isAlphanum || ['+', '-', '.'].contains c

/-- What follows the scheme and its colon. -/
def afterScheme? (uri : List Char) : Option (List Char) :=
  match Text.splitFirst? (· == ':') uri with
  | some (scheme, rest) => if isScheme scheme then some rest else none
  | none => none

/-- Whether a character ends the authority. -/
def endsAuthority (c : Char) : Bool :=
  ['/', '?', '#'].contains c

theorem endsAuthority_iff {c : Char} : endsAuthority c = true ↔ c ∈ ['/', '?', '#'] :=
  List.contains_iff_mem

/-- The host in an authority, which may have a user before it and a colon with a number after it. -/
def hostOfAuthority? (authority : List Char) : Option (List Char) :=
  let hostAndPort := match Text.splitLast? '@' authority with
    | some (_, hostAndPort) => hostAndPort
    | none => authority
  match hostAndPort with
  | '[' :: bracketed => (Text.splitFirst? (· == ']') bracketed).map Prod.fst
  | plain => some (plain.takeWhile (· != ':'))

/-- The host of a resource identifier. A text without a scheme is taken whole, unless it is empty
or holds a slash, question mark, number or at sign. -/
def host? (uri : List Char) : Option (List Char) :=
  match afterScheme? uri with
  | none => if uri.isEmpty || uri.any (fun c => endsAuthority c || c == '@') then none else some uri
  | some ('/' :: '/' :: rest) =>
    (hostOfAuthority? (rest.takeWhile fun c => !endsAuthority c)).filter (!·.isEmpty)
  | some _ => none

theorem host?_of_no_scheme {uri : List Char} (without : afterScheme? uri = none) :
    host? uri = if uri.isEmpty || uri.any (fun c => endsAuthority c || c == '@') then none
      else some uri := by
  rw [host?, without]

theorem host?_ne_nil {uri host : List Char} (found : host? uri = some host) : host ≠ [] := by
  unfold host? at found
  split at found
  · split at found
    · cases found
    · next filled =>
      obtain rfl := Option.some.inj found
      rintro rfl
      simp at filled
  · have kept := Option.eq_some_of_filter_eq_some found
    rintro rfl
    simp [Option.filter_eq_some_iff] at found
  · cases found

end X509.Uri
