/-
**Which texts may be names.**

A domain is labels with dots between them; a label is letters, digits, hyphens and underscores, and
starts and ends with a letter or digit; the first label may be an asterisk. A mailbox is a domain,
or something before an at sign and a domain after it. A resource identifier needs a scheme.

In the base of a subtree more is a name: a domain may start with a dot, wherever it stands alone,
and a resource identifier may be a domain.
-/

import X509.ContentError
import X509.GeneralName.Host
import X509.Text.Blank

namespace X509

/-- Where a name stands: anywhere, or as the base of a subtree. -/
inductive NameContext where
  | plain
  | subtree
deriving DecidableEq, Repr, Inhabited

/-- Whether a character may stand at the ends of a label. -/
def isLabelEnd (c : Char) : Bool :=
  c.isAlphanum

/-- Whether a character may stand in a label. -/
def isLabelChar (c : Char) : Bool :=
  c.isAlphanum || c == '-' || c == '_'

/-- Whether a text is a label of a domain. -/
def isLabel (label : List Char) : Bool :=
  label.head?.any isLabelEnd && label.getLast?.any isLabelEnd && label.all isLabelChar

/-- Whether texts are the labels of a domain. -/
def areLabels : List (List Char) → Bool
  | [] => false
  | first :: rest => (first == ['*'] || isLabel first) && rest.all isLabel

/-- A text without the dot it may start with. -/
def dropDot : List Char → List Char
  | '.' :: rest => rest
  | text => text

/-- Whether a text is a domain. -/
def isDomain (context : NameContext) (text : List Char) : Bool :=
  let labels := match context with
    | .plain => text
    | .subtree => dropDot text
  !labels.isEmpty && areLabels (Text.splitOn '.' labels)

/-- Whether a text has ASCII characters only, none of them blank. -/
def isAsciiWord (text : List Char) : Bool :=
  text.all fun c => c.toNat < 0x80 && !Text.isBlank c

/-- Whether a text is a mailbox or a host. -/
def isMailbox (context : NameContext) (text : List Char) : Bool :=
  isAsciiWord text &&
    match Text.splitLast? '@' text with
    | some (localPart, domain) => !localPart.isEmpty && isDomain .plain domain
    | none => isDomain context text

/-- Whether a text is a resource identifier. -/
def isUri (context : NameContext) (text : List Char) : Bool :=
  isAsciiWord text &&
    ((Uri.afterScheme? text).isSome || (context == .subtree && isDomain context text))

/-- Refuses what is no domain. -/
def checkDnsName (context : NameContext) (text : String) : Except ContentError Unit :=
  if isDomain context text.toList then .ok () else .error (.invalidDnsName text)

/-- Refuses what is no mailbox. -/
def checkRfc822Name (context : NameContext) (text : String) : Except ContentError Unit :=
  if isMailbox context text.toList then .ok () else .error (.invalidRfc822Name text)

/-- Refuses what is no resource identifier. -/
def checkUri (context : NameContext) (text : String) : Except ContentError Unit :=
  if isUri context text.toList then .ok () else .error (.invalidUri text)

theorem isDomain_subtree_of_plain {text : List Char} (plain : isDomain .plain text = true) :
    isDomain .subtree text = true := by
  match text with
  | [] => simp [isDomain] at plain
  | c :: rest =>
    by_cases dot : c = '.'
    · subst dot
      simp [isDomain, Text.splitOn, Text.splitWhere, areLabels, isLabel] at plain
    · simpa [isDomain, dropDot, dot] using plain

end X509
