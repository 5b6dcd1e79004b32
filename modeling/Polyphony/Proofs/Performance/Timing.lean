import Mathlib.Tactic.Linarith
import Polyphony.Proofs.Music.Condition
import Polyphony.Proofs.Performance.Definedness

/-!
# Order and containment in time

A piece without negative lengths, performed forward, gives its events in the order of time and
within its own span. The span is what makes the order inductive: what comes after a piece in a line
starts at its end, so all its events must have ended by then.
-/

namespace Polyphony

/-- Time runs forward in the context, or stands still. -/
structure Context.Forward (context : Context) : Prop extends context.Defined where
  /-- The scale of lengths is not negative. -/
  lengthScale_nonneg : 0 ≤ context.lengthScale.value

/-- A length that has a value, and not a negative one. -/
def Ratio.Forward (length : Ratio) : Prop := length.Defined ∧ 0 ≤ length.value

instance : DecidablePred Ratio.Forward := fun length =>
  inferInstanceAs (Decidable (length.Defined ∧ 0 ≤ length.value))

namespace Outcome

/-- The events come in the order of time and lie within the span from the start to the end. -/
structure Timely (start : Rat) (outcome : Outcome) : Prop where
  /-- The end is not before the start. -/
  elapsed_nonneg : 0 ≤ outcome.elapsed.value
  /-- The times do not decrease. -/
  ordered : outcome.events.Pairwise fun a b => a.time.value ≤ b.time.value
  /-- No event takes a negative time. -/
  lengths_nonneg : ∀ event ∈ outcome.events, 0 ≤ event.length.value
  /-- No event starts before the start. -/
  start_le : ∀ event ∈ outcome.events, start ≤ event.time.value
  /-- Every event has ended by the end. -/
  end_le : ∀ event ∈ outcome.events,
    event.time.value + event.length.value ≤ start + outcome.elapsed.value

/-- Timely outcomes, the right one from the end of the left one on, are timely in a row. -/
theorem Timely.followedBy {start : Rat} {left right outcome : Outcome}
    (hleft : left.Timely start) (hright : right.Timely (start + left.elapsed.value))
    (hjoin : left.followedBy right = .ok outcome) : outcome.Timely start := by
  obtain ⟨_, _, rfl⟩ := followedBy_eq_ok_iff.mp hjoin
  have hl := hleft.elapsed_nonneg
  have hr := hright.elapsed_nonneg
  constructor
  · simpa using add_nonneg hl hr
  · refine List.pairwise_append.mpr ⟨hleft.ordered, hright.ordered, ?_⟩
    intro a ha b hb
    have hlength := hleft.lengths_nonneg a ha
    have hend := hleft.end_le a ha
    have hstart := hright.start_le b hb
    linarith
  · exact List.forall_mem_append.mpr ⟨hleft.lengths_nonneg, hright.lengths_nonneg⟩
  · refine List.forall_mem_append.mpr ⟨hleft.start_le, fun event hevent => ?_⟩
    have hstart := hright.start_le event hevent
    linarith
  · rw [Ratio.value_ofValue]
    refine List.forall_mem_append.mpr ⟨fun event hevent => ?_, fun event hevent => ?_⟩
    · have hend := hleft.end_le event hevent
      linarith
    · have hend := hright.end_le event hevent
      linarith

/-- Timely outcomes with one start are timely together. -/
theorem Timely.together {start : Rat} {left right outcome : Outcome}
    (hleft : left.Timely start) (hright : right.Timely start)
    (hjoin : left.together right = .ok outcome) : outcome.Timely start := by
  obtain rfl := eq_of_together hjoin
  constructor
  · rw [Ratio.value_larger]
    exact le_max_of_le_left hleft.elapsed_nonneg
  · exact Performance.interleave_pairwise hleft.ordered hright.ordered
  · exact Performance.forall_mem_interleave hleft.lengths_nonneg hright.lengths_nonneg
  · exact Performance.forall_mem_interleave hleft.start_le hright.start_le
  · rw [Ratio.value_larger]
    refine Performance.forall_mem_interleave (fun event hevent => ?_) (fun event hevent => ?_)
    · have hend := hleft.end_le event hevent
      linarith [le_max_left left.elapsed.value right.elapsed.value]
    · have hend := hright.end_le event hevent
      linarith [le_max_right left.elapsed.value right.elapsed.value]

/-- Reshaping the events of a phrase keeps them timely. -/
theorem Timely.of_map_core {start : Rat} {outcome : Outcome} {shaped : List Event}
    (htimely : outcome.Timely start)
    (hcore : shaped.map Event.core = outcome.events.map Event.core) :
    Timely start ⟨shaped, outcome.elapsed⟩ := by
  have hordered : (shaped.map Event.core).Pairwise fun a b => a.time.value ≤ b.time.value := by
    rw [hcore]
    exact List.pairwise_map.mpr htimely.ordered
  constructor
  · exact htimely.elapsed_nonneg
  · rw [List.pairwise_map] at hordered
    exact hordered
  · exact Event.forall_mem_of_map_core hcore (fun _ => Iff.rfl) htimely.lengths_nonneg
  · exact Event.forall_mem_of_map_core hcore (fun _ => Iff.rfl) htimely.start_le
  · exact Event.forall_mem_of_map_core hcore (fun _ => Iff.rfl) htimely.end_le

end Outcome

namespace Context

/-- A later context runs forward as well. -/
theorem Forward.advanced {context later : Context} {elapsed : Ratio}
    (hcontext : context.Forward) (hlater : context.advanced elapsed = .ok later) :
    later.Forward := by
  refine ⟨hcontext.toDefined.advanced hlater, ?_⟩
  obtain ⟨_, _, rfl⟩ := advanced_eq_ok_iff.mp hlater
  exact hcontext.lengthScale_nonneg

/-- Checked controls keep time running forward. -/
theorem Forward.under {roster : Option Roster} {context inner : Context} {control : Control}
    (hcontext : context.Forward) (hchecked : control.Checked)
    (hunder : (context.under roster control).result = .ok inner) : inner.Forward := by
  refine ⟨hcontext.toDefined.under hunder, ?_⟩
  obtain ⟨_, rfl⟩ := under_eq_ok_iff.mp hunder
  rw [derived_lengthScale_value]
  exact div_nonneg hcontext.lengthScale_nonneg hchecked.speed_pos.le

end Context

/-- Performances that run forward are timely, from the time of their context on. -/
theorem Performs.timely {roster : Option Roster} {context : Context} {piece : Music Payload}
    {outcome : Outcome} (hperforms : Performs roster context piece outcome)
    (hcontext : context.Forward) (hlengths : piece.EachLength Ratio.Forward)
    (hcontrols : piece.EachControl Control.Checked) :
    outcome.Timely context.time.value := by
  induction hperforms with
  | @note context length elapsed payload event helapsed hevent =>
    obtain ⟨_, _, rfl⟩ := Ratio.mul_eq_ok_iff.mp helapsed
    obtain ⟨_, _, _, rfl⟩ := Player.playNote_eq_ok_iff.mp hevent
    have hnonneg : 0 ≤ length.value * context.lengthScale.value :=
      mul_nonneg hlengths.2 hcontext.lengthScale_nonneg
    constructor
    · simpa using hnonneg
    · exact List.pairwise_singleton _ _
    · exact List.forall_mem_singleton.mpr (by simpa [Player.noteEvent, mul_comm] using hnonneg)
    · exact List.forall_mem_singleton.mpr le_rfl
    · exact List.forall_mem_singleton.mpr (by simp [Player.noteEvent, mul_comm])
  | @rest context length elapsed helapsed =>
    obtain ⟨_, _, rfl⟩ := Ratio.mul_eq_ok_iff.mp helapsed
    have hnonneg : 0 ≤ length.value * context.lengthScale.value :=
      mul_nonneg hlengths.2 hcontext.lengthScale_nonneg
    constructor
    · simpa using hnonneg
    · exact List.Pairwise.nil
    all_goals exact List.forall_mem_nil _
  | seq hleft hlater hright hjoin ihleft ihright =>
    have hl := ihleft hcontext hlengths.1 hcontrols.1
    have hr := ihright (hcontext.advanced hlater) hlengths.2 hcontrols.2
    obtain ⟨_, _, rfl⟩ := Context.advanced_eq_ok_iff.mp hlater
    rw [Ratio.value_ofValue] at hr
    exact hl.followedBy hr hjoin
  | par hleft hright hjoin ihleft ihright =>
    have hl := ihleft hcontext hlengths.1 hcontrols.1
    have hr := ihright hcontext hlengths.2 hcontrols.2
    exact hl.together hr hjoin
  | phrase hroster hbody hshaped ih =>
    have hbody := ih hcontext hlengths hcontrols.2
    exact hbody.of_map_core (Player.map_core_of_applyPhraseAttributes hshaped)
  | silence hroster =>
    constructor
    · exact Ratio.value_zero.ge
    · exact List.Pairwise.nil
    all_goals exact List.forall_mem_nil _
  | modify hphrase hunder hbody ih =>
    have hinner := ih (hcontext.under hcontrols.1 hunder) hlengths hcontrols.2
    obtain ⟨_, rfl⟩ := Context.under_eq_ok_iff.mp hunder
    rwa [Context.derived_time] at hinner

/-- A piece without negative lengths, performed forward, takes no negative time and gives its events
in the order of time, each within the span of the piece. -/
theorem perform_ordered_within_span {roster : Option Roster} {context : Context}
    {piece : Music Payload} {outcome : Outcome} (hcontext : context.Forward)
    (hlengths : piece.EachLength Ratio.Forward) (hcontrols : piece.EachControl Control.Checked)
    (hok : (piece.perform roster context).result = .ok outcome) :
    (outcome.elapsed.Defined ∧ 0 ≤ outcome.elapsed.value) ∧
    (outcome.events.Pairwise fun a b => a.time.value ≤ b.time.value) ∧
    ∀ event ∈ outcome.events,
      event.time.Defined ∧ event.length.Defined ∧
      context.time.value ≤ event.time.value ∧
      event.time.value + event.length.value ≤ context.time.value + outcome.elapsed.value := by
  have hperforms := Music.perform_result_iff.mp hok
  have hdefined := hperforms.defined hcontext.toDefined
  have htimely := hperforms.timely hcontext hlengths hcontrols
  refine ⟨⟨hdefined.elapsed, htimely.elapsed_nonneg⟩, htimely.ordered, fun event hevent => ?_⟩
  exact ⟨hdefined.times event hevent, hdefined.lengths event hevent,
    htimely.start_le event hevent, htimely.end_le event hevent⟩

open Performance in
/-- The specimen keeps the order of time within its span, from 0 to 1. -/
theorem specimen_ordered_within_span :
    (Context.standard.Forward ∧ specimen.EachLength Ratio.Forward ∧
      specimen.EachControl Control.Checked ∧
      (specimen.perform (some .standard) .standard).result = .ok specimenOutcome) ∧
    (specimenOutcome.elapsed.Defined ∧ 0 ≤ specimenOutcome.elapsed.value) ∧
    (specimenOutcome.events.Pairwise fun a b => a.time.value ≤ b.time.value) ∧
    ∀ event ∈ specimenOutcome.events,
      event.time.Defined ∧ event.length.Defined ∧
      Context.standard.time.value ≤ event.time.value ∧
      event.time.value + event.length.value ≤
        Context.standard.time.value + specimenOutcome.elapsed.value := by
  have hcontext : Context.standard.Forward := ⟨Context.standard_defined, by decide +kernel⟩
  have hlengths : specimen.EachLength Ratio.Forward := by decide +kernel
  have hcontrols : specimen.EachControl Control.Checked := by decide +kernel
  exact ⟨⟨hcontext, hlengths, hcontrols, perform_specimen⟩,
    perform_ordered_within_span hcontext hlengths hcontrols perform_specimen⟩

end Polyphony
