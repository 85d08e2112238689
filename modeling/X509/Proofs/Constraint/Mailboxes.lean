/-
**Mailboxes by their domains.**

Before the last at sign of a mailbox anything may stand, at signs and dots too; behind it stands a
domain. A text without an at sign that ends the mailbox therefore ends that domain, and so a domain
with a dot contains the mailboxes and domains whose labels end in its own, and a host the mailboxes
at it. A mailbox contains nothing.

* `mailboxDomain` — what a mailbox, a host or a domain with a dot is the name of.
* `mailboxReaches_iff_mailboxBelow` — containment of mailboxes by their domains.
* `GeneralName.constrains_rfc822_means` — the relation of two mailboxes by their domains.
-/

import X509.Proofs.Constraint.Depth

namespace X509

open NameRelation (Means means_between)

/-! ### The domain of a mailbox -/

/-- What follows the last at sign of a mailbox, or the whole host or domain, without the dot that it
may start with. -/
def mailboxDomain (mailbox : List Char) : List Char :=
  match Text.splitLast? '@' mailbox with
  | some (_, domain) => domain
  | none => dropDot mailbox

/-- Neither a mailbox nor a domain with a dot. -/
def IsHost (text : List Char) : Prop :=
  '@' ∉ text ∧ startsWithDot text = false

theorem mailboxDomain_of_not_mem {text : List Char} (free : '@' ∉ text) :
    mailboxDomain text = dropDot text := by
  rw [mailboxDomain, Text.splitLast?_eq_none_iff.2 free]

theorem mailboxDomain_of_splitLast? {text before domain : List Char}
    (split : Text.splitLast? '@' text = some (before, domain)) : mailboxDomain text = domain := by
  rw [mailboxDomain, split]

theorem mem_of_mem_dropDot {c : Char} {text : List Char} (member : c ∈ dropDot text) :
    c ∈ text := by
  unfold dropDot at member
  split at member
  · exact List.mem_cons_of_mem _ member
  · exact member

theorem at_not_mem_mailboxDomain (text : List Char) : '@' ∉ mailboxDomain text := by
  cases split : Text.splitLast? '@' text with
  | some parts =>
    rw [mailboxDomain_of_splitLast? split]
    exact (Text.splitLast?_eq_some split).1
  | none =>
    have free := Text.splitLast?_eq_none_iff.1 split
    rw [mailboxDomain_of_not_mem free]
    exact fun member => free (mem_of_mem_dropDot member)

theorem at_mem_foldCase_iff {text : List Char} : '@' ∈ foldCase text ↔ '@' ∈ text := by
  rw [foldCase, List.mem_map]
  constructor
  · rintro ⟨c, member, lowered⟩
    rwa [← (toLower_eq_iff rfl).1 lowered]
  · exact fun member => ⟨'@', member, rfl⟩

theorem mailboxDomain_foldCase (text : List Char) :
    mailboxDomain (foldCase text) = foldCase (mailboxDomain text) := by
  unfold mailboxDomain
  rw [splitLast?_foldCase]
  cases Text.splitLast? '@' text with
  | some parts => rfl
  | none => exact dropDot_foldCase text

theorem isHost_foldCase {text : List Char} : IsHost (foldCase text) ↔ IsHost text := by
  rw [IsHost, IsHost, at_mem_foldCase_iff, startsWithDot_foldCase]

/-- **A mailbox and what is known of its domain:** that it consists of its labels. -/
theorem isLabelled_of_isMailbox {text : List Char} (valid : isMailbox .subtree text = true) :
    IsLabelled (mailboxDomain text) := by
  have parts := (Bool.and_eq_true_iff.1 valid).2
  cases split : Text.splitLast? '@' text with
  | none =>
    rw [split] at parts
    rw [mailboxDomain_of_not_mem (Text.splitLast?_eq_none_iff.1 split)]
    exact isLabelled_of_isDomain parts
  | some found =>
    obtain ⟨before, domain⟩ := found
    rw [split] at parts
    rw [mailboxDomain_of_splitLast? split]
    exact isLabelled_of_plain (Bool.and_eq_true_iff.1 parts).2

/-! ### Ends of mailboxes -/

/-- The part behind the last at sign is the only end of a text that an at sign stands before and
none stands in. -/
theorem at_cons_suffix_iff {back text : List Char} (free : '@' ∉ back) :
    '@' :: back <:+ text ↔ ∃ before, Text.splitLast? '@' text = some (before, back) := by
  constructor
  · rintro ⟨before, rfl⟩
    exact ⟨before, Text.splitLast?_append_cons free before⟩
  · rintro ⟨before, split⟩
    exact ⟨before, (Text.splitLast?_eq_some split).2.symm⟩

/-- A domain with a dot that ends a mailbox, a host or another domain with a dot ends its domain. -/
theorem dot_cons_suffix_iff {rest text : List Char} (free : '@' ∉ rest) :
    text ≠ '.' :: rest ∧ '.' :: rest <:+ text ↔ '.' :: rest <:+ mailboxDomain text := by
  have free' : '@' ∉ '.' :: rest := by simp [free]
  cases split : Text.splitLast? '@' text with
  | some parts =>
    obtain ⟨before, domain⟩ := parts
    obtain ⟨-, whole⟩ := Text.splitLast?_eq_some split
    rw [mailboxDomain_of_splitLast? split]
    constructor
    · exact fun ⟨_, ends⟩ => suffix_of_splitLast? split free' ends
    · intro ends
      refine ⟨?_, ends.trans ⟨before ++ ['@'], by simp [whole]⟩⟩
      rintro rfl
      exact free' (by simp [whole])
  | none =>
    rw [mailboxDomain_of_not_mem (Text.splitLast?_eq_none_iff.1 split)]
    cases dotted : startsWithDot text with
    | true =>
      rw [eq_dot_cons_dropDot dotted, and_comm, ne_comm]
      exact suffix_iff_suffix_cons.symm
    | false =>
      rw [dropDot_eq_self dotted, and_iff_right_iff_imp]
      rintro - rfl
      cases dotted

/-! ### Containment -/

/-- The characters of a domain are those of its labels, and dots. -/
theorem exists_mem_labels {c : Char} {domain : List Char} (other : c ≠ '.') (member : c ∈ domain) :
    ∃ label ∈ labels domain, c ∈ label := by
  have inside : c ∈ withDots (Text.splitOn '.' domain) := by
    rw [withDots_splitOn]
    exact List.mem_cons_of_mem '.' member
  obtain ⟨label, piece, found⟩ := List.mem_flatMap.1 inside
  have found := (List.mem_cons.1 found).resolve_left other
  exact ⟨label, mem_labels_iff.2 ⟨piece, List.ne_nil_of_mem found⟩, found⟩

theorem mem_of_mem_labels {c : Char} {domain label : List Char} (piece : label ∈ labels domain)
    (member : c ∈ label) (other : c ≠ '.') : c ∈ domain := by
  have inside : c ∈ withDots (Text.splitOn '.' domain) :=
    List.mem_flatMap.2 ⟨label, (mem_labels_iff.1 piece).1, List.mem_cons_of_mem '.' member⟩
  rw [withDots_splitOn] at inside
  exact (List.mem_cons.1 inside).resolve_left other

/-- Whether a mailbox lies below a name: at a host, or below a domain with a dot. -/
def MailboxBelow (outer inner : List Char) : Prop :=
  (IsHost outer ∧ ∃ before domain, Text.splitLast? '@' inner = some (before, domain) ∧
      foldCase domain = foldCase outer) ∨
    ∃ rest, outer = '.' :: rest ∧ foldCase inner ≠ foldCase outer ∧
      IsProperSuffix (lowerLabels rest) (lowerLabels (mailboxDomain inner))

/-- **A domain with a dot contains what its labels end.** -/
theorem mailboxContains_dot_iff {rest inner : List Char}
    (labelled : '@' ∉ rest → IsLabelled rest) (labelled' : IsLabelled (mailboxDomain inner)) :
    '.' :: rest ≠ inner ∧ mailboxContains ('.' :: rest) inner = true ↔
      inner ≠ '.' :: rest ∧ IsProperSuffix (labels rest) (labels (mailboxDomain inner)) := by
  have plain {domain : List Char} : ∀ label ∈ labels domain, '.' ∉ label :=
    fun _ => not_dot_mem_of_mem_labels
  rw [mailboxContains_iff]
  by_cases sign : '@' ∈ rest
  · -- an at sign is part of a label, and no label of the other name has one
    obtain ⟨label, piece, inside⟩ := exists_mem_labels (by decide) sign
    have stray : ¬ IsProperSuffix (labels rest) (labels (mailboxDomain inner)) := fun ends =>
      at_not_mem_mailboxDomain inner
        (mem_of_mem_labels (ends.1.subset piece) inside (by decide))
    simp [sign, stray]
  · have ends : IsProperSuffix (labels rest) (labels (mailboxDomain inner)) ↔
        inner ≠ '.' :: rest ∧ '.' :: rest <:+ inner := by
      rw [dot_cons_suffix_iff sign, suffix_iff_suffix_cons (c := '.'), ← labelled', ← labelled sign,
        withDots_suffix_iff plain plain, IsProperSuffix, ne_eq, ne_eq,
        withDots_inj plain plain]
    rw [ends, ne_comm]
    simp [sign]

/-- **A host contains the mailboxes at it.** -/
theorem mailboxContains_host_iff {outer inner : List Char} (bare : startsWithDot outer = false) :
    outer ≠ inner ∧ mailboxContains outer inner = true ↔
      IsHost outer ∧ ∃ before, Text.splitLast? '@' inner = some (before, outer) := by
  rw [mailboxContains_iff, IsHost]
  have start : ¬ outer.head? = some '.' := fun dot => by
    rw [startsWithDot, dot] at bare
    cases bare
  by_cases free : '@' ∈ outer
  · simp [free]
  · rw [← at_cons_suffix_iff free, cons_suffix_iff]
    constructor
    · rintro ⟨-, ends, -, dot | before⟩
      · exact absurd dot start
      · exact ⟨⟨free, bare⟩, ends, before⟩
    · rintro ⟨-, ends, before⟩
      refine ⟨?_, ends, free, .inr before⟩
      rintro rfl
      exact free ((cons_suffix_iff.2 ⟨ends, before⟩).subset List.mem_cons_self)

/-- **A name contains the mailboxes and domains that lie below it.** -/
theorem mailboxReaches_iff_mailboxBelow {outer inner : List Char}
    (valid : isMailbox .subtree outer = true) (valid' : isMailbox .subtree inner = true) :
    foldCase outer ≠ foldCase inner ∧ mailboxReaches outer inner = true ↔
      MailboxBelow outer inner := by
  have labelled' := mailboxDomain_foldCase inner ▸ (isLabelled_of_isMailbox valid').foldCase
  rw [mailboxReaches, MailboxBelow]
  cases dotted : startsWithDot outer with
  | true =>
    obtain ⟨rest, rfl⟩ : ∃ rest, outer = '.' :: rest := ⟨_, eq_dot_cons_dropDot dotted⟩
    have labelled (free : '@' ∉ foldCase rest) : IsLabelled (foldCase rest) := by
      have free' : '@' ∉ '.' :: rest := by simpa using mt at_mem_foldCase_iff.2 free
      have domain := isLabelled_of_isMailbox valid
      rw [mailboxDomain_of_not_mem free'] at domain
      exact IsLabelled.foldCase domain
    have contains := mailboxContains_dot_iff labelled labelled'
    rw [mailboxDomain_foldCase, labels_foldCase, labels_foldCase] at contains
    have host : ¬ IsHost ('.' :: rest) := fun host => by cases host.2
    rw [show foldCase ('.' :: rest) = '.' :: foldCase rest from rfl, contains]
    simp [host]
  | false =>
    have dotless : ∀ rest, outer ≠ '.' :: rest := by
      rintro rest rfl
      cases dotted
    rw [mailboxContains_host_iff ((startsWithDot_foldCase outer).trans dotted), isHost_foldCase]
    have lowered :
        (∃ before, Text.splitLast? '@' (foldCase inner) = some (before, foldCase outer)) ↔
        ∃ before domain, Text.splitLast? '@' inner = some (before, domain) ∧
          foldCase domain = foldCase outer := by
      rw [splitLast?_foldCase]
      cases Text.splitLast? '@' inner with
      | none => simp
      | some parts =>
        obtain ⟨before, domain⟩ := parts
        simp
    rw [lowered]
    simp [dotless]

namespace GeneralName

/-- **The relation of two mailboxes is that of their domains.** They are the same when their texts
are, and narrow when the second lies below the first. So a mailbox has nothing below it, and a host
no mailbox of a domain below its own. -/
theorem constrains_rfc822_means {one two : String} (valid : isMailbox .subtree one.toList = true)
    (valid' : isMailbox .subtree two.toList = true) :
    ∃ relation, (GeneralName.rfc822Name one).constrains (some (.rfc822Name two)) = .ok relation ∧
      Means relation (foldCase one.toList = foldCase two.toList)
        (MailboxBelow one.toList two.toList) (MailboxBelow two.toList one.toList) ∧
      ('@' ∈ one.toList → relation ≠ .narrows) ∧
      (IsHost one.toList → IsProperSuffix (lowerLabels one.toList)
        (lowerLabels (mailboxDomain two.toList)) → relation ≠ .narrows) := by
  have inside := mailboxReaches_iff_mailboxBelow valid valid'
  have outside := mailboxReaches_iff_mailboxBelow valid' valid
  have means := means_between mailbox_isContainment Iff.rfl inside outside
  rw [← mailboxRelation_eq_between] at means
  refine ⟨_, rfl, means, fun sign narrows => ?_, fun host below narrows => ?_⟩
  · rw [means.narrows_iff, ← inside] at narrows
    have free := (mailboxContains_iff.1 narrows.2).2.1
    exact free (at_mem_foldCase_iff.2 sign)
  · rcases means.narrows_iff.1 narrows with ⟨-, before, domain, split, same⟩ | ⟨rest, dotted, -⟩
    · rw [mailboxDomain_of_splitLast? split, ← labels_foldCase, ← labels_foldCase, same] at below
      exact below.2 rfl
    · rw [dotted] at host
      cases host.2

/-- A domain with a dot, a mailbox below it whose local part has an at sign and dots, and the host
of that mailbox. -/
theorem constrains_rfc822_means_dotted :
    let one := GeneralName.rfc822Name ".Example.com"
    let two := GeneralName.rfc822Name "a.b@.c@Mail.example.COM"
    let three := GeneralName.rfc822Name "mail.Example.com"
    one.constrains (some two) = .ok .narrows ∧ three.constrains (some two) = .ok .narrows ∧
      two.constrains (some three) ≠ .ok .narrows := by
  intro one two three
  have domain : isMailbox .subtree ".Example.com".toList = true := by decide +kernel
  have mailbox : isMailbox .subtree "a.b@.c@Mail.example.COM".toList = true := by decide +kernel
  have host : isMailbox .subtree "mail.Example.com".toList = true := by decide +kernel
  obtain ⟨relation, inside, means, -⟩ := constrains_rfc822_means domain mailbox
  obtain ⟨relation', inside', means', -⟩ := constrains_rfc822_means host mailbox
  obtain ⟨relation'', inside'', -, nothing, -⟩ := constrains_rfc822_means mailbox host
  refine ⟨inside.trans (congrArg _ (means.narrows_iff.2 (.inr ⟨_, rfl, ?_⟩))),
    inside'.trans (congrArg _ (means'.narrows_iff.2 (.inl ⟨?_, _, _, rfl, ?_⟩))), ?_⟩
  · unfold IsProperSuffix
    decide +kernel
  · unfold IsHost
    decide +kernel
  · decide +kernel
  · rw [inside'']
    exact fun narrows => nothing (by decide +kernel) (Except.ok.inj narrows)

end GeneralName

end X509
