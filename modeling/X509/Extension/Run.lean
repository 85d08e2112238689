/-
**Runs of requests on an extension.**

An extension starts newly made or read from octets. From then on it is asked for its attribute, for
its octets and for its envelope, and its attribute is set and taken away, in any order and whether
or not the requests succeed. Requests for octets fill the cache, and changes refresh it.

* `ExtensionProfile.critical_run` — no run changes whether an extension is critical.
* `ExtensionProfile.Reachable.run` — a run goes from reachable extensions to reachable ones.
* `ExtensionProfile.value_of_coherent` — with a coherent cache, the octets are those of a fresh
  encoding.
-/

import X509.Extension.Typed

namespace X509.ExtensionProfile

/-- A request to an extension. -/
inductive Request where
  | attr (request : AttributeSet.Request)
  /-- The octets of the content. -/
  | value
  /-- The envelope. -/
  | envelope

variable {Content : Type}

/-- The extension after a request. -/
def after (profile : ExtensionProfile Content) (extension : TypedExtension Content)
    (request : Request) : TypedExtension Content :=
  match request with
  | .attr request => profile.attributes.after request extension
  | .value => (profile.value extension).2
  | .envelope => (profile.toEnvelope extension).2

/-- The extension after some requests. -/
def run (profile : ExtensionProfile Content) (extension : TypedExtension Content)
    (requests : List Request) : TypedExtension Content :=
  requests.foldl profile.after extension

theorem run_append (profile : ExtensionProfile Content) (extension : TypedExtension Content)
    (first second : List Request) :
    profile.run extension (first ++ second) = profile.run (profile.run extension first) second :=
  List.foldl_append

/-! ### Reachable extensions -/

/-- An extension that requests lead to. -/
inductive Reachable (profile : ExtensionProfile Content) : TypedExtension Content → Prop where
  /-- One that is newly made. -/
  | made (content : Content) : Reachable profile (profile.make content)
  /-- One that was read. -/
  | parsed {critical : Bool} {octets : Octets} {extension : TypedExtension Content}
      (read : profile.parse critical octets = .ok extension) : Reachable profile extension
  /-- One that a request leads to. -/
  | after {extension : TypedExtension Content} (before : Reachable profile extension)
      (request : Request) : Reachable profile (profile.after extension request)

/-- **A run goes from reachable extensions to reachable ones.** -/
theorem Reachable.run {profile : ExtensionProfile Content} {extension : TypedExtension Content}
    (reachable : Reachable profile extension) (requests : List Request) :
    Reachable profile (profile.run extension requests) := by
  induction requests generalizing extension with
  | nil => exact reachable
  | cons request requests ih => exact ih (reachable.after request)

/-! ### The critical flag -/

/-- No request changes whether an extension is critical. -/
theorem critical_after (profile : ExtensionProfile Content) (extension : TypedExtension Content)
    (request : Request) : (profile.after extension request).critical = extension.critical := by
  cases request with
  | value => rfl
  | envelope => rfl
  | attr request =>
    cases request with
    | get name => rfl
    | set name value =>
      simp only [after, AttributeSet.after, AttributeSet.setNamed]
      split
      · simp only [attributes]
        split <;> rfl
      · rfl
    | delete name =>
      simp only [after, AttributeSet.after, AttributeSet.deleteNamed]
      split <;> rfl

/-- **No run changes whether an extension is critical.** -/
theorem critical_run (profile : ExtensionProfile Content) (extension : TypedExtension Content)
    (requests : List Request) :
    (profile.run extension requests).critical = extension.critical := by
  induction requests generalizing extension with
  | nil => rfl
  | cons request requests ih =>
    rw [← profile.critical_after extension request]
    exact ih (profile.after extension request)

/-! ### Coherent caches -/

/-- The octets of some content, encoded anew. Content without an encoding has no octets. -/
def freshValue (profile : ExtensionProfile Content) (content : Content) :
    Except ContentError Octets :=
  (profile.encode content).map (·.getD [])

/-- Whether what the cache holds, if anything, is the encoding of the content. -/
def Coherent (profile : ExtensionProfile Content) (extension : TypedExtension Content) : Prop :=
  ∀ octets, extension.cache.octets? = some octets →
    profile.encode extension.content = .ok (some octets)

/-- **With a coherent cache, the octets are those of a fresh encoding.** -/
theorem value_of_coherent {profile : ExtensionProfile Content}
    {extension : TypedExtension Content} (coherent : profile.Coherent extension) :
    (profile.value extension).1 = profile.freshValue extension.content := by
  cases held : extension.cache.octets? with
  | some octets =>
    simp only [value, ValueCache.ask, held, freshValue, coherent octets held]
    rfl
  | none =>
    simp only [value, ValueCache.ask, held, freshValue]
    cases profile.encode extension.content with
    | error fault => rfl
    | ok octets? => cases octets? <;> rfl

end X509.ExtensionProfile
