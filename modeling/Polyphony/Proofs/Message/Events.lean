import Polyphony.Proofs.Message.Pace
import Polyphony.Proofs.Message.Sorted

/-!
# The messages of events

Every sounding event has two messages, its attack and its release, and the messages of a
performance are those of its events, sorted. An event is released no earlier than it is attacked,
since durations and the pace are not negative and rounding keeps order; in the order of messages,
the release has the higher rank exactly when it is later.
-/

namespace Polyphony

/-- Messages count channels from zero, everything else counts them from one. -/
theorem Channel.wire_eq (channel : Channel) : channel.wire = channel.number - 1 := by
  unfold wire number
  omega

theorem Velocity.clamp_eq (volume : Int) : clamp volume = max 0 (min 127 volume) := rfl

namespace RenderedEvent

/-- The message that switches the note of an event on: at its start, with its volume brought into
the range of messages. -/
def attack (pace : Binary64) (event : RenderedEvent) : Message where
  seconds := event.time.mul pace
  switch := .on
  channel := event.channel.number - 1
  note := event.pitch
  velocity := max 0 (min 127 event.volume)

/-- The message that switches the note of an event off, at its end. -/
def release (pace : Binary64) (event : RenderedEvent) : Message where
  seconds := (event.time.add event.duration).mul pace
  switch := .off
  channel := event.channel.number - 1
  note := event.pitch
  velocity := 0

/-- The event starts and ends at finite times, and does not end before it starts. -/
structure Forward (event : RenderedEvent) : Prop where
  /-- The start is finite. -/
  time : event.time.isFinite
  /-- The time that the event sounds is finite. -/
  duration : event.duration.isFinite
  /-- The time that the event sounds is not negative. -/
  duration_nonneg : 0 ≤ event.duration.place

/-- Both messages of the event are at moments that are numbers. -/
def Placed (pace : Binary64) (event : RenderedEvent) : Prop :=
  (event.attack pace).seconds.isNaN = false ∧ (event.release pace).seconds.isNaN = false

instance (pace : Binary64) (event : RenderedEvent) : Decidable (event.Placed pace) :=
  inferInstanceAs (Decidable (_ ∧ _))

/-- The messages of an event: both if it sounds, and none otherwise. -/
def messages (pace : Binary64) (event : RenderedEvent) : List Message :=
  if event.on then [event.attack pace, event.release pace] else []

/-- An event is not released before it is attacked. -/
theorem Forward.attack_le_release {event : RenderedEvent} (hforward : event.Forward)
    {pace : Binary64} (hsign : pace.isNaN = false → pace.negative = false)
    (hplaced : event.Placed pace) :
    (event.attack pace).seconds.le (event.release pace).seconds := by
  have hle := Binary64.le_add hforward.time hforward.duration hforward.duration_nonneg
  obtain ⟨hattack, hrelease⟩ := hplaced
  have hpace := (Binary64.isNaN_of_mul hattack).2
  exact Binary64.mul_le_mul (hsign hpace) hle hattack hrelease

end RenderedEvent

/-- An event whose duration is not negative is rendered as one that runs forward. -/
theorem Event.forward_of_rendered {event : Event} {rendered : RenderedEvent}
    (hduration : 0 ≤ event.duration.value) (hok : event.rendered = .ok rendered) :
    rendered.Forward := by
  simp only [Event.rendered, bind_eq_ok_iff, pure_eq_ok_iff] at hok
  obtain ⟨time, htime, length, _, duration, hd, rfl⟩ := hok
  exact ⟨Ratio.isFinite_of_toBinary64 htime, Ratio.isFinite_of_toBinary64 hd,
    Ratio.place_nonneg_of_toBinary64 hd hduration⟩

namespace Message

theorem ofEvent_eq_ok_iff {pace : Binary64} {event : RenderedEvent} {messages : List Message} :
    ofEvent pace event = .ok messages ↔
      (event.on → 0 ≤ event.pitch ∧ event.pitch ≤ 127) ∧ messages = event.messages pace := by
  unfold ofEvent RenderedEvent.messages
  cases hon : event.on with
  | false => simp [pure, Except.pure, eq_comm]
  | true =>
    by_cases hpitch : 0 ≤ event.pitch ∧ event.pitch ≤ 127
    · simp [hpitch, pure, Except.pure, eq_comm, RenderedEvent.attack, RenderedEvent.release,
        Channel.wire_eq, Velocity.clamp_eq]
    · simp [hpitch]

/-- The messages of a performance are those of its events, sorted. -/
theorem ofEvents_eq_ok_iff {beats : Datum} {events : List Event} {messages : List Message} :
    ofEvents beats events = .ok messages ↔
      ∃ pace rendered, Pace.secondsPerWhole beats = .ok pace ∧
        Event.renderAll events = .ok rendered ∧
        (∀ event ∈ rendered, event.on → 0 ≤ event.pitch ∧ event.pitch ≤ 127) ∧
        messages = sorted (rendered.flatMap (RenderedEvent.messages pace)) := by
  have hmap (pace : Binary64) (rendered : List RenderedEvent) (lists : List (List Message)) :
      rendered.mapM (ofEvent pace) = .ok lists ↔
        (∀ event ∈ rendered, event.on → 0 ≤ event.pitch ∧ event.pitch ≤ 127) ∧
          lists = rendered.map (RenderedEvent.messages pace) :=
    mapM_eq_ok_iff_map fun _ _ => ofEvent_eq_ok_iff
  simp only [ofEvents, bind_eq_ok_iff, pure_eq_ok_iff, hmap]
  constructor
  · rintro ⟨pace, hpace, rendered, hrendered, _, ⟨hpitches, rfl⟩, rfl⟩
    exact ⟨pace, rendered, hpace, hrendered, hpitches, rfl⟩
  · rintro ⟨pace, rendered, hpace, hrendered, hpitches, rfl⟩
    exact ⟨pace, hpace, rendered, hrendered, _, ⟨hpitches, rfl⟩, rfl⟩

end Message

namespace RenderedEvent

variable {pace : Binary64} {event : RenderedEvent}

theorem rank_attack (pace : Binary64) (event : RenderedEvent) :
    (event.attack pace).rank = 2 * (event.attack pace).seconds.place + 1 :=
  Message.rank_on rfl

theorem rank_release (pace : Binary64) (event : RenderedEvent) :
    (event.release pace).rank = 2 * (event.release pace).seconds.place :=
  Message.rank_off rfl

/-- A release has a higher rank than an earlier attack. -/
theorem rank_lt_of_lt (hearlier : (event.attack pace).seconds.lt (event.release pace).seconds) :
    (event.attack pace).rank < (event.release pace).rank := by
  have hplace := (Binary64.lt_iff.mp hearlier).2.2
  rw [rank_attack, rank_release]
  omega

/-- A release has a lower rank than an attack at the same moment. -/
theorem rank_lt_of_eq (hsame : (event.attack pace).seconds.eq (event.release pace).seconds) :
    (event.release pace).rank < (event.attack pace).rank := by
  have hplace := (Binary64.eq_iff.mp hsame).2.2
  rw [rank_attack, rank_release]
  omega

/-- The messages of a sounding event stand one after the other in those of all events. -/
theorem messages_sublist (pace : Binary64) {events : List RenderedEvent} (hevent : event ∈ events)
    (hon : event.on) :
    List.Sublist [event.attack pace, event.release pace] (events.flatMap (messages pace)) := by
  have hmessages : messages pace event = [event.attack pace, event.release pace] := if_pos hon
  rw [← hmessages, List.flatMap_def]
  exact List.sublist_flatten_of_mem (List.mem_map_of_mem hevent)

/-- Sounding events whose messages are at moments that are numbers leave no other message. -/
theorem isNaN_of_mem_messages {events : List RenderedEvent}
    (hplaced : ∀ event ∈ events, event.on → event.Placed pace) :
    ∀ message ∈ events.flatMap (messages pace), message.seconds.isNaN = false := by
  intro message hmessage
  obtain ⟨event, hevent, hmem⟩ := List.mem_flatMap.mp hmessage
  unfold messages at hmem
  split at hmem
  case isTrue hon =>
    obtain ⟨hattack, hrelease⟩ := hplaced event hevent hon
    rcases List.mem_pair.mp hmem with rfl | rfl
    · exact hattack
    · exact hrelease
  case isFalse => exact absurd hmem List.not_mem_nil

end RenderedEvent

end Polyphony
