/-
**Resource identifiers put together from their parts.**

A resource identifier with an authority is a scheme, a user or none, a host, a port or none, and
what follows. The user may hold colons and at signs, and what follows may hold anything: the host is
still the one that was put in, since it stands after the last at sign of the authority, and neither
the host nor the port may hold one. A host with colons is written between brackets. What each part
may hold is said by characters, so it does not depend on how a host is looked for.

* `Uri.Parts`, `Uri.Parts.text` — the parts, and the text that they make.
* `Uri.Parts.isAuthority` — the middle parts make an authority with the host in it.
* `Uri.Parts.host?_text` — the host that is found is the host that was put in.
-/

import X509.Proofs.GeneralName.Authority

namespace X509.Uri

/-! ### Parts -/

/-- How a host is written. -/
inductive HostStyle where
  | plain
  | bracketed
deriving DecidableEq, Repr

namespace HostStyle

/-- The host as it is written. -/
def write : HostStyle → List Char → List Char
  | plain, host => host
  | bracketed, host => '[' :: (host ++ [']'])

/-- The characters that a host written so is without: those that end the authority, the user or the
host, and for a plain one the bracket that opens the other style. -/
def excluded : HostStyle → List Char
  | plain => ['/', '?', '#', '@', ':', '[']
  | bracketed => ['/', '?', '#', '@', ']']

theorem subset_excluded (style : HostStyle) : ['/', '?', '#', '@'] ⊆ style.excluded := by
  cases style <;> decide

end HostStyle

/-- **The parts of a resource identifier with an authority.** The scheme is a letter and the rest
behind it. -/
structure Parts where
  letter : Char
  schemeRest : List Char
  user? : Option (List Char)
  style : HostStyle
  host : List Char
  port? : Option (List Char)
  tail : List Char
  letter_valid : letter.isAlpha = true
  schemeRest_valid : ∀ c ∈ schemeRest, c.isAlphanum = true ∨ c ∈ ['+', '-', '.']
  user_inside : ∀ user ∈ user?, ∀ c ∈ user, c ∉ ['/', '?', '#']
  host_filled : host ≠ []
  host_inside : ∀ c ∈ host, c ∉ style.excluded
  port_inside : ∀ port ∈ port?, ∀ c ∈ port, c ∉ ['/', '?', '#', '@']
  tail_ends : ∀ c ∈ tail.head?, c ∈ ['/', '?', '#']

namespace Parts

variable (parts : Parts)

/-- The scheme. -/
def scheme : List Char :=
  parts.letter :: parts.schemeRest

/-- The user with its at sign, if there is one. -/
def userText : List Char :=
  match parts.user? with
  | none => []
  | some user => user ++ ['@']

/-- The port with its colon, if there is one. -/
def portText : List Char :=
  match parts.port? with
  | none => []
  | some port => ':' :: port

/-- The host as it is written, and the port. -/
def hostAndPort : List Char :=
  parts.style.write parts.host ++ parts.portText

/-- User, host and port. -/
def authority : List Char :=
  parts.userText ++ parts.hostAndPort

/-- The text that the parts make. -/
def text : List Char :=
  parts.scheme ++ ':' :: '/' :: '/' :: (parts.authority ++ parts.tail)

/-! ### The scheme -/

theorem isScheme_scheme : isScheme parts.scheme = true := by
  refine Bool.and_eq_true_iff.2 ⟨parts.letter_valid, List.all_eq_true.2 fun c inside => ?_⟩
  rcases parts.schemeRest_valid c inside with letter | sign
  · rw [letter, Bool.true_or]
  · rw [List.contains_iff_mem.2 sign, Bool.or_true]

/-! ### The authority -/

theorem isUser_userText : IsUser parts.userText := by
  unfold userText
  split
  · exact .absent
  · exact .named _

theorem inside_of_mem_userText {c : Char} (member : c ∈ parts.userText) :
    c ∉ ['/', '?', '#'] := by
  unfold userText at member
  split at member
  · cases member
  · next user given =>
    rcases List.mem_append.1 member with inside | sign
    · exact parts.user_inside user given c inside
    · obtain rfl := List.mem_singleton.1 sign
      decide

theorem inside_of_mem_portText {c : Char} (member : c ∈ parts.portText) :
    c ∉ ['/', '?', '#', '@'] := by
  unfold portText at member
  split at member
  · cases member
  · next port given =>
    rcases List.mem_cons.1 member with rfl | inside
    · decide
    · exact parts.port_inside port given c inside

theorem inside_of_mem_write {c : Char} (member : c ∈ parts.style.write parts.host) :
    c ∉ ['/', '?', '#', '@'] := by
  have host : ∀ c ∈ parts.host, c ∉ ['/', '?', '#', '@'] := fun c inside delimiter =>
    parts.host_inside c inside (parts.style.subset_excluded delimiter)
  cases style : parts.style with
  | plain =>
    rw [style] at member
    exact host c member
  | bracketed =>
    rw [style, HostStyle.write, List.mem_cons, List.mem_append, List.mem_singleton] at member
    rcases member with rfl | inside | rfl
    · decide
    · exact host c inside
    · decide

theorem inside_of_mem_hostAndPort {c : Char} (member : c ∈ parts.hostAndPort) :
    c ∉ ['/', '?', '#', '@'] := by
  rcases List.mem_append.1 member with host | port
  · exact parts.inside_of_mem_write host
  · exact parts.inside_of_mem_portText port

/-- A host that is written in its style ends before the port. -/
theorem isHostPart_hostAndPort : IsHostPart parts.host parts.hostAndPort := by
  have excluded : ∀ c ∈ parts.host, c ∉ parts.style.excluded := parts.host_inside
  unfold hostAndPort
  cases style : parts.style with
  | plain =>
    rw [style] at excluded
    have colonless : ':' ∉ parts.host := fun inside => excluded ':' inside (by decide)
    have unbracketed : parts.host.head? ≠ some '[' := fun first =>
      excluded '[' (List.mem_of_mem_head? first) (by decide)
    rw [HostStyle.write]
    unfold portText
    split
    · rw [List.append_nil]
      exact .alone unbracketed colonless
    · exact .ported unbracketed colonless _
  | bracketed =>
    rw [style] at excluded
    have unclosed : ']' ∉ parts.host := fun inside => excluded ']' inside (by decide)
    rw [HostStyle.write, List.cons_append, List.append_assoc, List.singleton_append]
    exact .bracketed unclosed parts.portText

/-- **User, host and port make an authority with that host,** since the last at sign is the one
behind the user. -/
theorem isAuthority : IsAuthority parts.host parts.authority :=
  ⟨parts.userText, parts.hostAndPort, rfl, parts.isUser_userText,
    fun sign => parts.inside_of_mem_hostAndPort sign (by decide), parts.isHostPart_hostAndPort⟩

theorem endsAuthority_of_mem_authority {c : Char} (member : c ∈ parts.authority) :
    endsAuthority c = false := by
  rw [← Bool.not_eq_true, endsAuthority_iff]
  rcases List.mem_append.1 member with user | host
  · exact parts.inside_of_mem_userText user
  · exact fun ends => parts.inside_of_mem_hostAndPort host (List.mem_append_left ['@'] ends)

/-! ### The host -/

theorem hasHost_text : HasHost parts.text parts.host :=
  ⟨parts.scheme, parts.authority, parts.tail, rfl, parts.isScheme_scheme,
    fun _ => parts.endsAuthority_of_mem_authority,
    fun c first => endsAuthority_iff.2 (parts.tail_ends c first), parts.isAuthority,
    parts.host_filled⟩

/-- **The host that is found is the host that was put in.** So no user, port or tail makes a
difference: two texts have the same host exactly if it was put into both. -/
theorem host?_text (other : Parts) :
    host? parts.text = some parts.host ∧
      (host? parts.text = host? other.text ↔ parts.host = other.host) := by
  have found (parts : Parts) : host? parts.text = some parts.host := by
    have schemed : HasScheme parts.text := ⟨parts.scheme, _, rfl, parts.isScheme_scheme⟩
    exact (host?_eq_some_iff_hasHost schemed).2 parts.hasHost_text
  refine ⟨found parts, ?_⟩
  rw [found parts, found other, Option.some_inj]

/-- A user that looks like another authority and an at sign behind the host leave the host as it is,
in both ways to write it. -/
theorem host?_text_styles :
    let plain : Parts := {
      letter := 'l', schemeRest := "dap".toList, user? := some "a.de:80@b.de".toList,
      style := .plain, host := "c.de".toList, port? := some "389".toList,
      tail := "/@d.de".toList, letter_valid := by simp, schemeRest_valid := by simp,
      user_inside := by simp, host_filled := by simp, host_inside := by simp [HostStyle.excluded],
      port_inside := by simp, tail_ends := by simp }
    let bracketed : Parts := { plain with
      style := .bracketed, host := "2001:db8::1".toList, host_filled := by simp,
      host_inside := by simp [HostStyle.excluded] }
    plain.text = "ldap://a.de:80@b.de@c.de:389/@d.de".toList ∧
      host? plain.text = some "c.de".toList ∧
      bracketed.text = "ldap://a.de:80@b.de@[2001:db8::1]:389/@d.de".toList ∧
      host? bracketed.text = some "2001:db8::1".toList ∧
      host? plain.text ≠ host? bracketed.text := by
  intro plain bracketed
  obtain ⟨found, same_iff⟩ := plain.host?_text bracketed
  refine ⟨rfl, found, rfl, (bracketed.host?_text plain).1, ?_⟩
  rw [Ne, same_iff]
  decide

end Parts

end X509.Uri
