import Polyphony.Proofs.Message.Conversion

/-!
# Messages of notes that all sound

A performance without silent events either has two messages for each of them or is refused for a
pitch that no message can carry. At a finite pace that is not zero, no moment is anything but a
number: a finite time may be too late for a finite double in seconds, but then it is an infinity.
-/

namespace Polyphony

/-- A product with a finite factor that is not zero is a number. -/
theorem Binary64.isNaN_mul_of_isFinite {x pace : Binary64} (hx : x.isNaN = false)
    (hpace : pace.isFinite) (hzero : pace.isZero = false) : (x.mul pace).isNaN = false := by
  rw [mul, notNumber?_eq_none hx (isNaN_of_isFinite hpace), Option.getD_none,
    isInfinite_of_isFinite hpace, hzero, Bool.or_false, Bool.or_false]
  cases hinfinite : x.isInfinite with
  | true =>
    have hmagnitude : x.magnitude = infiniteMagnitude := of_decide_eq_true hinfinite
    have hnonzero : x.isZero = false := by
      rw [isZero, hmagnitude]
      decide
    rw [if_pos rfl, hnonzero, if_neg Bool.false_ne_true]
    exact decide_eq_false (lt_irrefl _)
  | false =>
    rw [if_neg Bool.false_ne_true]
    exact isNaN_ofUnits _ _ _

/-- What rendering keeps of an event, and what it makes of its times. -/
theorem Event.of_rendered {event : Event} {rendered : RenderedEvent}
    (hok : event.rendered = .ok rendered) :
    rendered.pitch = event.pitch ∧ rendered.on = event.on ∧ rendered.time.isFinite ∧
      rendered.duration.isFinite := by
  simp only [Event.rendered, bind_eq_ok_iff, pure_eq_ok_iff] at hok
  obtain ⟨time, htime, length, _, duration, hduration, rfl⟩ := hok
  exact ⟨rfl, rfl, Ratio.isFinite_of_toBinary64 htime, Ratio.isFinite_of_toBinary64 hduration⟩

/-- At a finite pace that is not zero, events at finite times have messages at moments that are
numbers. -/
theorem RenderedEvent.placed_of_isFinite {event : RenderedEvent} {pace : Binary64}
    (htime : event.time.isFinite) (hduration : event.duration.isFinite) (hpace : pace.isFinite)
    (hzero : pace.isZero = false) : event.Placed pace := by
  have hsum : (event.time.add event.duration).isNaN = false := by
    rw [Binary64.add_of_isFinite htime hduration]
    exact Binary64.isNaN_ofUnits _ _ _
  exact ⟨Binary64.isNaN_mul_of_isFinite (Binary64.isNaN_of_isFinite htime) hpace hzero,
    Binary64.isNaN_mul_of_isFinite hsum hpace hzero⟩

namespace Message

variable {beats : Datum} {pace : Binary64} {events : List Event} {rendered : List RenderedEvent}

section

variable (hpace : Pace.secondsPerWhole beats = .ok pace)
  (hrendered : Event.renderAll events = .ok rendered) (hon : ∀ event ∈ events, event.on)
include hpace hrendered hon

/-- Notes whose pitches are all in range have two messages each. -/
theorem exists_ofEvents_eq_ok (hfinite : pace.isFinite) (hzero : pace.isZero = false)
    (hpitches : ∀ event ∈ events, 0 ≤ event.pitch ∧ event.pitch ≤ 127) :
    ∃ messages, ofEvents beats events = .ok messages ∧ messages.length = 2 * events.length := by
  have hsounds : ∀ event ∈ rendered, event.on :=
    forall_mem_of_mapM_eq_ok (fun event shown hon hok => (Event.of_rendered hok).2.1 ▸ hon)
      hrendered hon
  have hinside : ∀ event ∈ rendered, 0 ≤ event.pitch ∧ event.pitch ≤ 127 :=
    forall_mem_of_mapM_eq_ok (fun event shown hpitch hok => (Event.of_rendered hok).1 ▸ hpitch)
      hrendered hpitches
  have hplaced : ∀ event ∈ rendered, event.on → event.Placed pace := by
    refine forall_mem_of_forall₂ (fun event shown hok _ => ?_) (mapM_eq_ok_iff.mp hrendered)
    obtain ⟨_, _, htime, hduration⟩ := Event.of_rendered hok
    exact RenderedEvent.placed_of_isFinite htime hduration hfinite hzero
  refine ⟨_, ofEvents_eq_ok_iff.mpr
    ⟨pace, rendered, hpace, hrendered, fun event hevent _ => hinside event hevent, rfl⟩, ?_⟩
  rw [(sorted_perm (RenderedEvent.isNaN_of_mem_messages hplaced)).length_eq,
    RenderedEvent.length_messages, List.countP_eq_length.mpr hsounds,
    (mapM_eq_ok_iff.mp hrendered).length_eq]

/-- Notes of which one has a pitch out of range are refused for such a pitch. -/
theorem exists_ofEvents_eq_error
    (houtside : ∃ event ∈ events, ¬ (0 ≤ event.pitch ∧ event.pitch ≤ 127)) :
    ∃ pitch time, ofEvents beats events = .error (.pitchOutside pitch time) := by
  obtain ⟨event, hevent, hpitch⟩ := houtside
  obtain ⟨i, hi, rfl⟩ := List.mem_iff_getElem.mp hevent
  have hrelated := mapM_eq_ok_iff.mp hrendered
  have hshown : i < rendered.length := hrelated.length_eq ▸ hi
  have hok : events[i].rendered = .ok rendered[i] := hrelated.get hi hshown
  obtain ⟨hsame, hsounds, _⟩ := Event.of_rendered hok
  have hfound : ∃ first, rendered.find? (fun event => decide event.OutOfRange) = some first := by
    rw [← Option.isSome_iff_exists, List.find?_isSome]
    have hout : rendered[i].OutOfRange := ⟨hsounds ▸ hon _ hevent, hsame ▸ hpitch⟩
    exact ⟨rendered[i], List.getElem_mem hshown, decide_eq_true hout⟩
  obtain ⟨first, hfirst⟩ := hfound
  refine ⟨first.pitch, first.time, ?_⟩
  rw [ofEvents, hpace, hrendered]
  exact congrArg (· >>= fun messages => pure (sorted messages.flatten))
    (mapM_ofEvent_eq_error hfirst)

end

end Message

end Polyphony
