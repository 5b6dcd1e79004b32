import Polyphony.Proofs.Message.Release

/-!
# Conversion to messages

The messages of a performance are the two of each sounding event, in a stable sort by seconds, with
those that switch off before those that switch on at one moment. The conversion refuses beats that
are zero or less, and then sounding events whose pitch no message can carry, the first of them by
its pitch and time. Nothing else goes wrong where the beats and the times of events have doubles and
every moment is a number.
-/

namespace Polyphony

/-- The channels of messages are the sixteen from zero on. -/
theorem Channel.wire_range (channel : Channel) :
    0 ≤ channel.number - 1 ∧ channel.number - 1 ≤ 15 := by
  have hlt := channel.index.isLt
  unfold number
  omega

namespace RenderedEvent

/-- The event sounds, at a pitch that no message can carry. -/
def OutOfRange (event : RenderedEvent) : Prop :=
  event.on ∧ ¬ (0 ≤ event.pitch ∧ event.pitch ≤ 127)

instance : DecidablePred OutOfRange := fun event =>
  inferInstanceAs (Decidable (event.on ∧ ¬ (0 ≤ event.pitch ∧ event.pitch ≤ 127)))

theorem pitch_range {event : RenderedEvent} (hinside : ¬ event.OutOfRange) (hon : event.on) :
    0 ≤ event.pitch ∧ event.pitch ≤ 127 := by
  by_contra hpitch
  exact hinside ⟨hon, hpitch⟩

/-- Each sounding event has two messages. -/
theorem length_messages (pace : Binary64) (events : List RenderedEvent) :
    (events.flatMap (messages pace)).length = 2 * events.countP (·.on) := by
  induction events with
  | nil => rfl
  | cons event events ih =>
    rw [List.flatMap_cons, List.length_append, ih, List.countP_cons, messages]
    cases event.on with
    | true => exact Nat.add_comm _ _
    | false => exact Nat.zero_add _

end RenderedEvent

namespace Message

/-- The numbers of a message are in range. -/
structure InRange (message : Message) : Prop where
  /-- There are sixteen channels, counted from zero. -/
  channel : 0 ≤ message.channel ∧ message.channel ≤ 15
  /-- Pitches go up to 127. -/
  note : 0 ≤ message.note ∧ message.note ≤ 127
  /-- So do volumes. -/
  velocity : 0 ≤ message.velocity ∧ message.velocity ≤ 127

theorem ofEvent_eq_error {pace : Binary64} {event : RenderedEvent} (houtside : event.OutOfRange) :
    ofEvent pace event = .error (.pitchOutside event.pitch event.time) := by
  obtain ⟨hon, hpitch⟩ := houtside
  simp only [ofEvent, hon, Bool.not_true, Bool.false_eq_true, if_false, if_neg hpitch]
  rfl

/-- The first event that is out of range is reported. -/
theorem mapM_ofEvent_eq_error {pace : Binary64} {events : List RenderedEvent}
    {event : RenderedEvent}
    (hfirst : events.find? (fun event => decide event.OutOfRange) = some event) :
    events.mapM (ofEvent pace) = .error (.pitchOutside event.pitch event.time) := by
  induction events with
  | nil => nomatch hfirst
  | cons first rest ih =>
    rw [List.mapM_cons]
    by_cases houtside : first.OutOfRange
    · simp only [List.find?_cons, decide_eq_true houtside, Option.some.injEq] at hfirst
      rw [ofEvent_eq_error houtside, ← hfirst]
      rfl
    · simp only [List.find?_cons, decide_eq_false houtside] at hfirst
      have hmessages : ofEvent pace first = .ok (first.messages pace) :=
        ofEvent_eq_ok_iff.mpr ⟨RenderedEvent.pitch_range houtside, rfl⟩
      rw [hmessages, ih hfirst]
      rfl

/-- Messages of events that are not out of range are in range. -/
theorem inRange_of_mem_messages {pace : Binary64} {events : List RenderedEvent}
    (hevents : ∀ event ∈ events, ¬ event.OutOfRange) :
    ∀ message ∈ events.flatMap (RenderedEvent.messages pace), message.InRange := by
  intro message hmessage
  obtain ⟨event, hevent, hmem⟩ := List.mem_flatMap.mp hmessage
  unfold RenderedEvent.messages at hmem
  split at hmem
  case isTrue hon =>
    have hpitch := RenderedEvent.pitch_range (hevents event hevent) hon
    have hvolume : max 0 (min 127 event.volume) ≤ 127 := by omega
    rcases List.mem_pair.mp hmem with rfl | rfl
    · exact ⟨event.channel.wire_range, hpitch, le_max_left _ _, hvolume⟩
    · exact ⟨event.channel.wire_range, hpitch, le_rfl, (by decide : (0 : Int) ≤ 127)⟩
  case isFalse => exact absurd hmem List.not_mem_nil

end Message

namespace Performance

/-- A note at the start whose volume is below zero, and on the last channel the same note, much too
loud, a quarter later while the first one sounds; between them a silent event that is out of
range. -/
def crowdedBar : List Event :=
  [{ noteAt .zero ⟨1, 2⟩ with volume := -5 },
   { noteAt ⟨1, 8⟩ ⟨1, 8⟩ with pitch := 200, on := false },
   { noteAt ⟨1, 4⟩ ⟨1, 2⟩ with volume := 300, channel := ⟨.last 15⟩ }]

/-- The crowded bar in doubles. -/
def crowdedRendered : List RenderedEvent :=
  [⟨.zero false, 60, -5, .ofWord 0x3FD0000000000000, .ofWord 0x3FE0000000000000, .first, true, []⟩,
   ⟨.ofWord 0x3FC0000000000000, 200, 127, .ofWord 0x3FD0000000000000, .ofWord 0x3FC0000000000000,
     .first, false, []⟩,
   ⟨.ofWord 0x3FD0000000000000, 60, 300, .ofWord 0x3FD0000000000000, .ofWord 0x3FE0000000000000,
     ⟨.last 15⟩, true, []⟩]

/-- The messages of the crowded bar: one note as soft and the other one as loud as may be. -/
def crowdedMessages : List Message :=
  [⟨.zero false, .on, 0, 60, 0⟩, ⟨.ofWord 0x3FE0000000000000, .on, 15, 60, 127⟩,
   ⟨.ofWord 0x3FF0000000000000, .off, 0, 60, 0⟩, ⟨.ofWord 0x3FF8000000000000, .off, 15, 60, 0⟩]

end Performance

end Polyphony
