/-
**Context-specific elements that read back.**

A context-specific element that reads back holds a sequence of members or the octets of the
contents, by the form of its tag. So an EXPLICIT tag is what wraps a single element, and taking an
IMPLICIT tag off is reading the octets as plain data of the type that was replaced.

* `Element.eq_explicit_of_explicitInner?` — EXPLICIT tags.
* `Element.untag_octets`, `Element.implicit_of_leaf` — IMPLICIT tags off and on.
-/

import X509.Proofs.Element.ReadsBack

namespace X509.Element

variable {slot : UInt8} {constructed : Bool} {inner element value : Element} {type : UniversalType}
  {data : Octets}

/-- **An EXPLICIT tag wraps the one element in it.** -/
theorem eq_explicit_of_explicitInner?
    (wasRead : (contextSpecific slot constructed inner).WasRead)
    (found : (contextSpecific slot constructed inner).explicitInner? = some value) :
    contextSpecific slot constructed inner = explicit slot value := by
  obtain ⟨rfl, members, rfl⟩ | ⟨rfl, data, rfl⟩ := wasRead.contextSpecific_cases
  · match members, found with
    | [_], found =>
      obtain rfl := Option.some.inj found
      rfl
  · cases found

/-- What was read is read under an EXPLICIT tag too. -/
theorem WasRead.explicit (wasRead : value.WasRead) (slot : UInt8) :
    (Element.explicit slot value).WasRead := by
  obtain ⟨tlv, read⟩ := wasRead
  have inside : ofTlvs [tlv] = .ok [value] := ofTlvs_eq_ok_iff.2 (.cons read .nil)
  refine ⟨.ofChildren (.contextSpecific slot true) [tlv], ?_⟩
  rw [Tlv.ofChildren, ofTlv, inside]
  rfl

theorem Steady.of_explicit (steady : (explicit slot value).Steady) : value.Steady :=
  (steady.of_inside (List.mem_singleton_self _)).of_inside (List.mem_singleton_self _)

/-- An EXPLICIT tag takes the place of another one if what it wraps does. -/
theorem Replaces.explicit {other : Element} (replaces : other.Replaces value)
    (steady : (explicit slot value).Steady) :
    (Element.explicit slot other).Replaces (Element.explicit slot value) := by
  obtain ⟨tlv, sound⟩ := steady.sound
  exact IsNode.contextSpecific.replaces .contextSpecific sound (.cons replaces .nil)

/-- Octets under a tag that can be written stand for the leaf that holds them. -/
theorem sound_leaf (legible : (Tag.contextSpecific slot false).Legible)
    (fits : data.length < Length.bound) :
    Sound (contextSpecific slot false (.octetString data))
      (.leaf (.contextSpecific slot false) data) :=
  ⟨rfl, Tlv.spellsItself_leaf_iff.2 ⟨legible, rfl, fits⟩, rfl⟩

/-- Octets under a tag that can be written are steady. -/
theorem steady_leaf (legible : (Tag.contextSpecific slot false).Legible)
    (fits : data.length < Length.bound) :
    (contextSpecific slot false (.octetString data)).Steady := by
  have octets : Sound (.octetString data) (leafOf .octetString data) :=
    ⟨rfl, Tlv.spellsItself_leaf_iff.2 ⟨⟨by decide, by decide⟩, by decide, fits⟩, rfl⟩
  refine steady_of_inside (sound_leaf legible fits).readsBack fun member inside => ?_
  obtain rfl := List.mem_singleton.1 inside
  exact steady_of_inside octets.readsBack nofun

/-- Without its IMPLICIT tag a primitive element is plain data of the type that was replaced. -/
theorem untag_octets (type : UniversalType) (named : ∀ number, type ≠ .other number)
    (plain : type.isStructured = false) (slot : UInt8) (data : Octets) :
    untag type (contextSpecific slot false (.octetString data)) =
      ofData type (.universal type) data := by
  cases type with
  | sequence | set => cases plain
  | other number => exact absurd rfl (named number)
  | _ => rfl

/-- An IMPLICIT tag on a leaf keeps its octets. -/
theorem implicit_of_leaf (plain : element.plainType? = some type)
    (written : element.toTlv = .ok (leafOf type data)) (slot : UInt8) :
    element.implicit slot = .ok (contextSpecific slot false (.octetString data)) := by
  unfold implicit
  split
  · cases plain
  · cases plain
  · cases plain
  · rw [written]
    rfl

end X509.Element
