/-
**An extension without a cache.**

What an extension would answer if it kept no octets: its content is encoded anew for every request
that asks for octets, and once for every change, whose answer tells whether the encoding failed.
Dropping the cache of an extension commutes with every change, whatever the cache holds. So the two
can only differ in the octets that are read, and there they agree as long as the cache is coherent.

* `ExtensionProfile.bare_after` — a request leads to the same extension but for the cache.
* `ExtensionProfile.answer_of_coherent` — with a coherent cache, a request is answered the same.
-/

import X509.Extension.Run

namespace X509

/-- An extension with content of a type, and no cache. -/
structure BareExtension (Content : Type) where
  critical : Bool
  content : Content
deriving DecidableEq, Repr

/-- An extension with its cache dropped. -/
def TypedExtension.bare {Content : Type} (extension : TypedExtension Content) :
    BareExtension Content :=
  { critical := extension.critical, content := extension.content }

namespace ExtensionProfile

variable {Content : Type}

/-! ### Answers -/

/-- What is answered to a request to an extension. -/
inductive Answer where
  | attr (answer : Except ContentError (Option FieldValue))
  | value (octets : Except ContentError Octets)
  | envelope (envelope : Except ContentError Envelope)

/-- What an extension answers to a request. -/
def answer (profile : ExtensionProfile Content) (extension : TypedExtension Content) :
    Request → Answer
  | .attr request => .attr (profile.attributes.answer request extension)
  | .value => .value (profile.value extension).1
  | .envelope => .envelope (profile.toEnvelope extension).1

/-- What an extension answers to requests that come one after the other. -/
def answers (profile : ExtensionProfile Content) (extension : TypedExtension Content) :
    List Request → List Answer
  | [] => []
  | request :: requests =>
    profile.answer extension request :: profile.answers (profile.after extension request) requests

/-! ### Answers without a cache -/

/-- The extension with other content, encoded to see whether it can be. -/
def bareAssign (profile : ExtensionProfile Content) (extension : BareExtension Content)
    (content : Content) : Except ContentError Unit × BareExtension Content :=
  ((profile.encode content).map fun _ => (), { extension with content })

/-- The attribute of an extension without a cache. -/
def bareAttributes (profile : ExtensionProfile Content) :
    AttributeSet (BareExtension Content) where
  subject := profile.subject
  name := profile.name
  attr := profile.attr
  get extension := profile.get extension.content
  set extension value :=
    match profile.put? value with
    | some content => profile.bareAssign extension content
    | none => (.error (.attributeType profile.subject profile.attr profile.expected), extension)
  delete extension := profile.bareAssign extension profile.cleared
  display extension := profile.display extension.critical extension.content

/-- The envelope of an extension without a cache. -/
def bareEnvelope (profile : ExtensionProfile Content) (extension : BareExtension Content) :
    Except ContentError Envelope :=
  (profile.freshValue extension.content).map fun value =>
    { oid := profile.oid, critical := extension.critical, value }

/-- What an extension without a cache answers to a request. -/
def bareAnswer (profile : ExtensionProfile Content) (extension : BareExtension Content) :
    Request → Answer
  | .attr request => .attr (profile.bareAttributes.answer request extension)
  | .value => .value (profile.freshValue extension.content)
  | .envelope => .envelope (profile.bareEnvelope extension)

/-- The extension without a cache after a request; only changes matter to it. -/
def bareAfter (profile : ExtensionProfile Content) (extension : BareExtension Content) :
    Request → BareExtension Content
  | .attr request => profile.bareAttributes.after request extension
  | .value => extension
  | .envelope => extension

/-- What an extension without a cache answers to requests that come one after the other. -/
def bareAnswers (profile : ExtensionProfile Content) (extension : BareExtension Content) :
    List Request → List Answer
  | [] => []
  | request :: requests =>
    profile.bareAnswer extension request ::
      profile.bareAnswers (profile.bareAfter extension request) requests

/-! ### Dropping the cache -/

variable (profile : ExtensionProfile Content) (extension : TypedExtension Content)

theorem bare_value : (profile.value extension).2.bare = extension.bare := rfl

theorem bare_toEnvelope : (profile.toEnvelope extension).2.bare = extension.bare := rfl

theorem map_bare_assign (content : Content) :
    (profile.assign extension content).map id TypedExtension.bare =
      profile.bareAssign extension.bare content := by
  unfold assign ValueCache.refresh bareAssign
  cases profile.encode content <;> rfl

theorem isNamed_bareAttributes (name : String) :
    profile.bareAttributes.isNamed name = profile.attributes.isNamed name := rfl

theorem map_bare_setNamed (name : String) (value : FieldValue) :
    (profile.attributes.setNamed name value extension).map id TypedExtension.bare =
      profile.bareAttributes.setNamed name value extension.bare := by
  unfold AttributeSet.setNamed
  rw [isNamed_bareAttributes]
  cases profile.attributes.isNamed name with
  | false => rfl
  | true =>
    simp only [if_true, attributes, bareAttributes]
    cases profile.put? value with
    | some content => exact profile.map_bare_assign extension content
    | none => rfl

theorem map_bare_deleteNamed (name : String) :
    (profile.attributes.deleteNamed name extension).map id TypedExtension.bare =
      profile.bareAttributes.deleteNamed name extension.bare := by
  unfold AttributeSet.deleteNamed
  rw [isNamed_bareAttributes]
  cases profile.attributes.isNamed name with
  | false => rfl
  | true => exact profile.map_bare_assign extension profile.cleared

theorem attributes_answer_eq_bare (request : AttributeSet.Request) :
    profile.attributes.answer request extension =
      profile.bareAttributes.answer request extension.bare := by
  cases request with
  | get name => rfl
  | set name value =>
    simp only [AttributeSet.answer, ← map_bare_setNamed, Prod.map_fst, id]
  | delete name =>
    simp only [AttributeSet.answer, ← map_bare_deleteNamed, Prod.map_fst, id]

/-- **A request leads to the same extension but for the cache.** -/
theorem bare_after (request : Request) :
    (profile.after extension request).bare = profile.bareAfter extension.bare request := by
  cases request with
  | value => exact profile.bare_value extension
  | envelope => exact profile.bare_toEnvelope extension
  | attr request =>
    cases request with
    | get name => rfl
    | set name value =>
      simp only [after, bareAfter, AttributeSet.after, ← map_bare_setNamed, Prod.map_snd]
    | delete name =>
      simp only [after, bareAfter, AttributeSet.after, ← map_bare_deleteNamed, Prod.map_snd]

variable {profile extension}

/-- **With a coherent cache, a request is answered as without one.** -/
theorem answer_of_coherent (coherent : profile.Coherent extension) (request : Request) :
    profile.answer extension request = profile.bareAnswer extension.bare request := by
  cases request with
  | attr request => exact congrArg Answer.attr (profile.attributes_answer_eq_bare extension request)
  | value => exact congrArg Answer.value (value_of_coherent coherent)
  | envelope =>
    have same : (profile.toEnvelope extension).1 = profile.bareEnvelope extension.bare := by
      simp only [toEnvelope, value_of_coherent coherent]
      rfl
    exact congrArg Answer.envelope same

end ExtensionProfile

end X509
