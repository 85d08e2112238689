/-
**Domains, mailboxes and resources under name constraints.**

Domains are compared in lower case. One contains another when it ends it at the boundary of a label;
a domain that starts with a dot brings that boundary along. A mailbox contains only itself, a host
the mailboxes at it, and a domain with a dot everything that ends in it. Resources are compared by
their hosts.
-/

import X509.Address.Text
import X509.Constraint.Relation
import X509.GeneralName.Validity

namespace X509

/-- The labels of a domain that are not empty. -/
def labels (domain : List Char) : List (List Char) :=
  (Text.splitOn '.' domain).filter (!·.isEmpty)

/-- A text with ASCII letters in lower case. -/
def foldCase (text : List Char) : List Char :=
  text.map Char.toLower

/-- The character before the end of a text that `back` makes up. -/
def charBefore? (back text : List Char) : Option Char :=
  (text.take (text.length - back.length)).getLast?

/-- Whether `back`, which ends the text, starts at the boundary of a label: either a dot stands
before it or it starts with one, and not both. -/
def startsAtLabel (back text : List Char) : Bool :=
  (charBefore? back text == some '.') ^^ (back.head? == some '.')

/-- Whether a domain contains a longer one. -/
def domainContains (outer inner : List Char) : Bool :=
  outer.isSuffixOf inner && startsAtLabel outer inner

/-- The relation between two domains. -/
def domainRelation (first second : List Char) : NameRelation :=
  let first := foldCase first
  let second := foldCase second
  .ofContainment (first == second) (domainContains first second) (domainContains second first)

/-- Whether a mailbox, a host or a domain with a dot contains a longer mailbox or domain. -/
def mailboxContains (outer inner : List Char) : Bool :=
  outer.isSuffixOf inner && !outer.contains '@' &&
    (outer.head? == some '.' || charBefore? outer inner == some '@')

/-- The relation between two mailboxes. -/
def mailboxRelation (first second : List Char) : NameRelation :=
  let first := foldCase first
  let second := foldCase second
  .ofContainment (first == second) (mailboxContains first second) (mailboxContains second first)

/-- Whether a host is an address. -/
def isAddress (host : List Char) : Bool :=
  (IpAddress.ofText? host).isSome

/-- The relation between two hosts. Addresses relate only to themselves; so do hosts, but for the
domains that start with a dot and contain them. -/
def hostRelation (first second : List Char) : NameRelation :=
  if foldCase first = foldCase second then
    .same
  else if isAddress first || isAddress second then
    .sameType
  else
    let relation := domainRelation (dropDot first) (dropDot second)
    match first.head? == some '.', second.head? == some '.', relation with
    | false, false, .narrows => .sameType
    | false, false, .widens => .sameType
    | true, false, .same => .widens
    | false, true, .same => .narrows
    | _, _, relation => relation

/-- The relation between two resources. Without a host only equal ones are the same. -/
def uriRelation (first second : List Char) : NameRelation :=
  match Uri.host? first, Uri.host? second with
  | some host, some host' => hostRelation host host'
  | _, _ => if first = second then .same else .sameType

/-- The number of labels of a domain. -/
def domainDepth (domain : List Char) : Nat :=
  (labels domain).length

/-- The number of labels of the domain of a mailbox, and one more for the mailbox itself. -/
def mailboxDepth (mailbox : List Char) : Nat :=
  match Text.splitLast? '@' mailbox with
  | some (_, domain) => 1 + domainDepth domain
  | none => domainDepth mailbox

/-- The number of labels of the host of a resource, unless that is an address or there is none. -/
def uriDepth? (uri : List Char) : Option Nat :=
  match Uri.host? uri with
  | some host => if isAddress host then none else some (domainDepth host)
  | none => none

end X509
