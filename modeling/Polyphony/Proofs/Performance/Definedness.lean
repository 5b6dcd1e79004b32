import Polyphony.Proofs.Performance.Derivation
import Polyphony.Proofs.Performance.Derived
import Polyphony.Proofs.Performance.Interleave
import Polyphony.Proofs.Player.Note
import Polyphony.Proofs.Player.Phrase

/-!
# Values of the times in a performance

From a context whose time and scales have values, a performance never comes to a time without one,
whatever the lengths, ratios and amounts in the piece are: an operation on a ratio without a value
fails, and every other result has a value.
-/

namespace Polyphony

/-- The times of an outcome have values. -/
structure Outcome.Defined (outcome : Outcome) : Prop where
  /-- The time that it took has a value. -/
  elapsed : outcome.elapsed.Defined
  /-- The events start at times that have values. -/
  times : ∀ event ∈ outcome.events, event.time.Defined
  /-- The events take lengths that have values. -/
  lengths : ∀ event ∈ outcome.events, event.length.Defined

/-- A later context of a defined one is defined. -/
theorem Context.Defined.advanced {context later : Context} {elapsed : Ratio}
    (hcontext : context.Defined) (hlater : context.advanced elapsed = .ok later) :
    later.Defined := by
  obtain ⟨_, _, rfl⟩ := advanced_eq_ok_iff.mp hlater
  exact ⟨Ratio.ofValue_defined _, hcontext.lengthScale, hcontext.durationScale⟩

/-- The context under a control in a defined one is defined. -/
theorem Context.Defined.under {roster : Option Roster} {context inner : Context}
    {control : Control} (hcontext : context.Defined)
    (hunder : (context.under roster control).result = .ok inner) : inner.Defined := by
  obtain ⟨_, rfl⟩ := under_eq_ok_iff.mp hunder
  exact hcontext.derived roster control

/-- A performance that starts at a time with a value has a defined outcome. Scales without a value
make the notes and rests under them fail. -/
theorem Performs.defined_of_time {roster : Option Roster} {context : Context}
    {piece : Music Payload} {outcome : Outcome} (hperforms : Performs roster context piece outcome)
    (htime : context.time.Defined) : outcome.Defined := by
  induction hperforms with
  | note helapsed hevent =>
    obtain ⟨_, _, rfl⟩ := Ratio.mul_eq_ok_iff.mp helapsed
    obtain ⟨_, _, _, rfl⟩ := Player.playNote_eq_ok_iff.mp hevent
    refine ⟨Ratio.ofValue_defined _, ?_, ?_⟩
    · exact List.forall_mem_singleton.mpr htime
    · exact List.forall_mem_singleton.mpr (Ratio.ofValue_defined _)
  | rest helapsed =>
    obtain ⟨_, _, rfl⟩ := Ratio.mul_eq_ok_iff.mp helapsed
    exact ⟨Ratio.ofValue_defined _, List.forall_mem_nil _, List.forall_mem_nil _⟩
  | seq hleft hlater hright hjoin ihleft ihright =>
    have hl := ihleft htime
    obtain ⟨_, _, rfl⟩ := Context.advanced_eq_ok_iff.mp hlater
    have hr := ihright (Ratio.ofValue_defined _)
    obtain ⟨_, _, rfl⟩ := Outcome.followedBy_eq_ok_iff.mp hjoin
    refine ⟨Ratio.ofValue_defined _, ?_, ?_⟩
    · exact List.forall_mem_append.mpr ⟨hl.times, hr.times⟩
    · exact List.forall_mem_append.mpr ⟨hl.lengths, hr.lengths⟩
  | par hleft hright hjoin ihleft ihright =>
    have hl := ihleft htime
    have hr := ihright htime
    obtain rfl := Outcome.eq_of_together hjoin
    refine ⟨?_, ?_, ?_⟩
    · dsimp only
      split
      · exact hr.elapsed
      · exact hl.elapsed
    · exact Performance.forall_mem_interleave hl.times hr.times
    · exact Performance.forall_mem_interleave hl.lengths hr.lengths
  | phrase hroster hbody hshaped ih =>
    have hbody := ih htime
    have hcore := Player.map_core_of_applyPhraseAttributes hshaped
    refine ⟨hbody.elapsed, ?_, ?_⟩
    · exact Event.forall_mem_of_map_core hcore (fun _ => Iff.rfl) hbody.times
    · exact Event.forall_mem_of_map_core hcore (fun _ => Iff.rfl) hbody.lengths
  | silence hroster =>
    exact ⟨Ratio.zero_defined, List.forall_mem_nil _, List.forall_mem_nil _⟩
  | modify hphrase hunder hbody ih =>
    obtain ⟨_, rfl⟩ := Context.under_eq_ok_iff.mp hunder
    refine ih ?_
    rw [Context.derived_time]
    exact htime

/-- Performances from defined contexts have defined outcomes. -/
theorem Performs.defined {roster : Option Roster} {context : Context} {piece : Music Payload}
    {outcome : Outcome} (hperforms : Performs roster context piece outcome)
    (hcontext : context.Defined) : outcome.Defined :=
  hperforms.defined_of_time hcontext.time

end Polyphony
