/-
**What a request to the attribute of an extension does.**

A request asks for new content when its name is the attribute's and, if it gives a value, the value
has the attribute's type. Such a request assigns that content and answers as the assignment does;
every other request leaves the extension as it is. So a failed request changes nothing at all, or
leaves content that cannot be encoded and an empty cache.

* `ExtensionProfile.asked?_cases` — which requests ask for content.
* `ExtensionProfile.after_of_asked?_eq_none`, `ExtensionProfile.after_of_asked?_eq_some` — what they
  do, and the others.
* `ExtensionProfile.after_of_answer_eq_error` — what a failed request can leave behind.
* `ExtensionProfile.forall_content_run_iff` — what holds of the content all through a run.
-/

import X509.Extension.Run

namespace X509.ExtensionProfile

variable {Content : Type} {profile : ExtensionProfile Content}

/-- The content that a request asks to assign, if its name is known and its value has the type. -/
def asked? (profile : ExtensionProfile Content) : AttributeSet.Request → Option Content
  | .get _ => none
  | .set name value => if profile.attributes.isNamed name then profile.put? value else none
  | .delete name => if profile.attributes.isNamed name then some profile.cleared else none

/-- What asks for content gives the attribute a value of its type, or takes its value away. -/
theorem asked?_cases {request : AttributeSet.Request} {content : Content}
    (asked : profile.asked? request = some content) :
    ∃ name, profile.attributes.isNamed name = true ∧
      ((∃ value, request = .set name value ∧ profile.put? value = some content) ∨
        (request = .delete name ∧ content = profile.cleared)) := by
  cases request with
  | get name => cases asked
  | set name value =>
    rw [asked?] at asked
    split at asked
    · next named => exact ⟨name, named, .inl ⟨value, rfl, asked⟩⟩
    · cases asked
  | delete name =>
    rw [asked?] at asked
    split at asked
    · next named => exact ⟨name, named, .inr ⟨rfl, (Option.some.inj asked).symm⟩⟩
    · cases asked

/-- A request that asks for no content changes nothing. -/
theorem after_of_asked?_eq_none {request : AttributeSet.Request}
    (none_asked : profile.asked? request = none) (extension : TypedExtension Content) :
    profile.attributes.after request extension = extension := by
  cases request with
  | get name => rfl
  | set name value =>
    simp only [AttributeSet.after, AttributeSet.setNamed]
    split
    · next named =>
      rw [asked?, if_pos named] at none_asked
      simp only [attributes, none_asked]
    · rfl
  | delete name =>
    simp only [AttributeSet.after, AttributeSet.deleteNamed]
    split
    · next named =>
      rw [asked?, if_pos named] at none_asked
      cases none_asked
    · rfl

/-- A request that asks for content assigns it. -/
theorem after_of_asked?_eq_some {request : AttributeSet.Request} {content : Content}
    (asked : profile.asked? request = some content) (extension : TypedExtension Content) :
    profile.attributes.answer request extension =
        (profile.assign extension content).1.map (fun _ => none) ∧
      profile.attributes.after request extension = (profile.assign extension content).2 := by
  obtain ⟨name, named, ⟨value, rfl, typed⟩ | ⟨rfl, rfl⟩⟩ := asked?_cases asked
  · simp only [AttributeSet.answer, AttributeSet.after, AttributeSet.setNamed, if_pos named]
    simp only [attributes, typed, and_self]
  · simp only [AttributeSet.answer, AttributeSet.after, AttributeSet.deleteNamed, if_pos named]
    exact ⟨rfl, rfl⟩

/-! ### Failed requests -/

theorem assign_of_error {content : Content} {fault : ContentError}
    (unwritable : profile.encode content = .error fault) (extension : TypedExtension Content) :
    profile.assign extension content =
      (.error fault, { extension with content, cache := .empty }) := by
  rw [assign, ValueCache.refresh_of_error unwritable]

/-- **A failed request changes nothing, or leaves content that cannot be encoded and an empty
cache.** -/
theorem after_of_answer_eq_error {extension : TypedExtension Content}
    {request : AttributeSet.Request} {fault : ContentError}
    (failed : profile.attributes.answer request extension = .error fault) :
    profile.attributes.after request extension = extension ∨
      ∃ content, profile.asked? request = some content ∧ profile.encode content = .error fault ∧
        profile.attributes.after request extension =
          { extension with content, cache := .empty } := by
  cases asked : profile.asked? request with
  | none => exact .inl (after_of_asked?_eq_none asked extension)
  | some content =>
    obtain ⟨answered, reached⟩ := after_of_asked?_eq_some asked extension
    rw [answered] at failed
    cases encoded : profile.encode content with
    | ok octets? =>
      simp only [assign, ValueCache.refresh, encoded] at failed
      cases failed
    | error other =>
      rw [assign_of_error encoded] at failed reached
      obtain rfl : other = fault := Except.error.inj failed
      exact .inr ⟨content, rfl, encoded, reached⟩

/-! ### Runs of requests -/

/-- The content that a request to an extension asks to assign. -/
def assigned? (profile : ExtensionProfile Content) : Request → Option Content
  | .attr request => profile.asked? request
  | .value => none
  | .envelope => none

theorem content_after (extension : TypedExtension Content) (request : Request) :
    (profile.after extension request).content =
      (profile.assigned? request).getD extension.content := by
  cases request with
  | value => rfl
  | envelope => rfl
  | attr request =>
    cases asked : profile.asked? request with
    | none => rw [after, after_of_asked?_eq_none asked, assigned?, asked, Option.getD_none]
    | some content =>
      rw [after, (after_of_asked?_eq_some asked extension).2, content_assign, assigned?, asked,
        Option.getD_some]

/-- **What holds of the content all through a run** is what holds of it before and of all content
that the run asks for, whether or not that can be encoded. -/
theorem forall_content_run_iff {holds : Content → Prop} (extension : TypedExtension Content)
    (requests : List Request) :
    (∀ before, before <+: requests → holds (profile.run extension before).content) ↔
      holds extension.content ∧
        ∀ content ∈ requests.filterMap profile.assigned?, holds content := by
  induction requests generalizing extension with
  | nil =>
    constructor
    · intro all
      exact ⟨all [] List.nil_prefix, nofun⟩
    · rintro ⟨start, -⟩ before front
      obtain rfl := List.prefix_nil.1 front
      exact start
  | cons request requests ih =>
    have first : (∀ before, before <+: request :: requests →
          holds (profile.run extension before).content) ↔
        holds extension.content ∧ ∀ before, before <+: requests →
          holds (profile.run (profile.after extension request) before).content := by
      constructor
      · intro all
        exact ⟨all [] List.nil_prefix, fun before front =>
          all (request :: before) (List.cons_prefix_cons.2 ⟨rfl, front⟩)⟩
      · rintro ⟨start, later⟩ before front
        rcases List.prefix_cons_iff.1 front with rfl | ⟨rest, rfl, inner⟩
        · exact start
        · exact later rest inner
    rw [first, ih, content_after]
    cases asked : profile.assigned? request with
    | none => rw [List.filterMap_cons_none asked, Option.getD_none, and_self_left]
    | some content =>
      rw [List.filterMap_cons_some asked, Option.getD_some, List.forall_mem_cons]

end X509.ExtensionProfile
