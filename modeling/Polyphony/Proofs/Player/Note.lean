import Polyphony.Player.Note
import Polyphony.Proofs.Ratio.Exact

/-!
# Events of notes

The event of a note in terms of its context and its payload. Of several attributes of one kind the
first one counts, and each kind sets a field of its own.
-/

namespace Polyphony

namespace NoteAttribute

/-- The volume that an attribute sets. -/
def volume? : NoteAttribute → Option Int
  | volume value => some value
  | _ => none

/-- The further numbers that an attribute sets. -/
def params? : NoteAttribute → Option (List Binary64)
  | params values => some values
  | _ => none

end NoteAttribute

namespace Payload

/-- The volume that a payload sets: that of its first volume attribute. -/
def volume? (payload : Payload) : Option Int :=
  payload.attributes.findSome? NoteAttribute.volume?

/-- The further numbers that a payload sets: those of its first attribute with some. -/
def params? (payload : Payload) : Option (List Binary64) :=
  payload.attributes.findSome? NoteAttribute.params?

end Payload

namespace Player

theorem applyNoteAttribute_eq (event : Event) (attr : NoteAttribute) :
    applyNoteAttribute event attr =
      { event with
        volume := attr.volume?.getD event.volume
        params := attr.params?.getD event.params } := by
  cases attr <;> rfl

/-- Applied from the last to the first, attributes leave what the first of each kind sets. -/
theorem applyNoteAttributes_eq (attributes : List NoteAttribute) (event : Event) :
    applyNoteAttributes attributes event =
      { event with
        volume := (attributes.findSome? NoteAttribute.volume?).getD event.volume
        params := (attributes.findSome? NoteAttribute.params?).getD event.params } := by
  induction attributes with
  | nil => rfl
  | cons attr attributes ih =>
    have hcons : applyNoteAttributes (attr :: attributes) event =
        applyNoteAttribute (applyNoteAttributes attributes event) attr := rfl
    rw [hcons, ih, applyNoteAttribute_eq]
    cases attr <;> rfl

/-- The event that a note has where its context gives it one. -/
def noteEvent (context : Context) (length : Ratio) (payload : Payload) : Event where
  time := context.time
  pitch := context.pitch + payload.basePitch
  volume := payload.volume?.getD context.volume
  length := .ofValue (context.lengthScale.value * length.value)
  duration := .ofValue (context.durationScale.value * length.value)
  channel := context.channel
  on := true
  params := payload.params?.getD []

/-- A note is played when its length and both scales have values. -/
theorem playNote_eq_ok_iff {context : Context} {length : Ratio} {payload : Payload}
    {event : Event} :
    playNote context length payload = .ok event ↔
      context.lengthScale.Defined ∧ context.durationScale.Defined ∧ length.Defined ∧
        event = noteEvent context length payload := by
  simp only [playNote, bind_eq_ok_iff, Ratio.mul_eq_ok_iff, pure_eq_ok_iff, applyNoteAttributes_eq]
  constructor
  · rintro ⟨scaled, ⟨hscale, hlength, rfl⟩, duration, ⟨hduration, _, rfl⟩, rfl⟩
    exact ⟨hscale, hduration, hlength, rfl⟩
  · rintro ⟨hscale, hduration, hlength, rfl⟩
    exact ⟨_, ⟨hscale, hlength, rfl⟩, _, ⟨hduration, hlength, rfl⟩, rfl⟩

end Player

end Polyphony
