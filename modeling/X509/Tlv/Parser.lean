/-
**Reading encoded values.**

`Frame.read` takes the identifier and the length off the front of the octets and cuts the contents
out. `Tlv.readAll` reads octets as encoded values up to their end, and the contents of every
constructed value in the same way.

* `Tlv.readAll_nil`, `Tlv.readAll_eq` — the two cases of reading.
-/

import X509.Tlv.Basic

namespace X509

/-- The first encoded value of some octets, its contents still unread. -/
structure Frame where
  tag : Tag
  contents : Octets
  rest : Octets
deriving DecidableEq, Repr

namespace Frame

/-- The tag at the start of the octets. The number in the low five bits must not be all ones, which
announces a number in further octets. -/
def readTag : Octets → Except TlvError (Tag × Octets)
  | [] => .error .endOfInput
  | octet :: rest =>
    if octet &&& Tag.numberMask = Tag.numberMask then
      .error (.highTagNumber octet)
    else
      .ok (Tag.ofOctet octet, rest)

/-- The first encoded value of the octets. -/
def read (octets : Octets) : Except TlvError Frame := do
  let (tag, afterTag) ← readTag octets
  let (length, afterLength) ← Length.read afterTag
  match Octets.split? length afterLength with
  | some (contents, rest) => pure { tag, contents, rest }
  | none => throw .endOfInput

/-- A frame that was read is made of a tag, a length and that many contents octets. -/
theorem parts_of_read {octets : Octets} {frame : Frame} (read : read octets = .ok frame) :
    ∃ afterTag afterLength length, readTag octets = .ok (frame.tag, afterTag) ∧
      Length.read afterTag = .ok (length, afterLength) ∧ frame.contents.length = length ∧
      afterLength = frame.contents ++ frame.rest := by
  unfold Frame.read at read
  cases tagged : readTag octets with
  | error fault => simp [tagged, bind, Except.bind] at read
  | ok tagged' =>
    obtain ⟨tag, afterTag⟩ := tagged'
    cases measured : Length.read afterTag with
    | error fault => simp [tagged, measured, bind, Except.bind] at read
    | ok measured' =>
      obtain ⟨length, afterLength⟩ := measured'
      simp only [tagged, measured, bind, Except.bind] at read
      split at read
      · next contents rest cut =>
        obtain rfl := Except.ok.inj read
        obtain ⟨count, shape⟩ := Octets.split?_eq_some_iff.1 cut
        exact ⟨afterTag, afterLength, length, rfl, measured, count, shape⟩
      · cases read

theorem length_lt_of_readTag {octets rest : Octets} {tag : Tag}
    (read : readTag octets = .ok (tag, rest)) : rest.length < octets.length := by
  cases octets with
  | nil => simp [readTag] at read
  | cons octet tail =>
    simp only [readTag] at read
    split at read
    · cases read
    · obtain ⟨-, rfl⟩ := Prod.mk.inj (Except.ok.inj read)
      simp

/-- The contents and what follows them are both shorter than the octets they were cut from. -/
theorem lengths_lt_of_read {octets : Octets} {frame : Frame} (read : read octets = .ok frame) :
    frame.contents.length < octets.length ∧ frame.rest.length < octets.length := by
  obtain ⟨afterTag, afterLength, length, tagged, measured, -, rfl⟩ := parts_of_read read
  have first := length_lt_of_readTag tagged
  have second := Length.length_lt_of_read measured
  rw [List.length_append] at second
  omega

end Frame

namespace Tlv

/-- The encoded values that the octets are made of. The values inside a constructed one are read
before those that follow it. -/
def readAll (octets : Octets) : Except TlvError (List Tlv) :=
  if octets.isEmpty then
    .ok []
  else
    match framed : Frame.read octets with
    | .error fault => .error fault
    | .ok frame =>
      have := Frame.lengths_lt_of_read framed
      if frame.tag.isConstructed then
        match readAll frame.contents with
        | .error fault => .error fault
        | .ok children =>
          match readAll frame.rest with
          | .error fault => .error fault
          | .ok others => .ok (.node frame.tag frame.contents.length children :: others)
      else
        match readAll frame.rest with
        | .error fault => .error fault
        | .ok others => .ok (.leaf frame.tag frame.contents :: others)
termination_by octets.length
decreasing_by all_goals omega

/-- A frame read as an encoded value. -/
def ofFrame (frame : Frame) : Except TlvError Tlv :=
  if frame.tag.isConstructed then
    (readAll frame.contents).map (.node frame.tag frame.contents.length)
  else
    .ok (.leaf frame.tag frame.contents)

theorem readAll_nil : readAll [] = .ok [] := by
  rw [readAll]
  rfl

/-- **Reading proceeds value by value.** -/
theorem readAll_eq {octets : Octets} (filled : octets ≠ []) :
    readAll octets = (do
      let frame ← Frame.read octets
      let first ← ofFrame frame
      let others ← readAll frame.rest
      pure (first :: others)) := by
  rw [readAll, if_neg (by simpa using filled)]
  split
  · next fault framed => rw [framed]; rfl
  · next frame framed =>
    simp only [framed, bind, Except.bind, ofFrame, pure, Except.pure]
    split
    · cases readAll frame.contents with
      | error fault => rfl
      | ok children => cases readAll frame.rest <;> rfl
    · cases readAll frame.rest <;> rfl

end Tlv

end X509
