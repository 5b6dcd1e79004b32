import Polyphony.Proofs.Performance.Retiming

/-!
# Performances at a tempo

A tempo is a change of time that holds on to the time at which it begins. So a piece performs at a
faster tempo as it does without it, but in less time: nothing about its events changes besides when
and how long they sound. Volumes on a ramp and the weaving of pieces that go on together stay as they
were.
-/

namespace Polyphony

/-- The change of time of a tempo that begins at a time. -/
def Retiming.tempo (origin : Rat) {ratio : Rat} (hpos : 0 < ratio) : Retiming where
  factor := ratio⁻¹
  shift := origin - ratio⁻¹ * origin
  factor_pos := inv_pos.mpr hpos

/-- The context of a tempo is retimed from its own time on. -/
theorem Context.Defined.retimed_tempo {context : Context} (hcontext : context.Defined)
    {ratio : Ratio} (hpos : 0 < ratio.value) :
    context.Retimed (.tempo context.time.value hpos) (context.derived none (.tempo ratio)) where
  defined := hcontext
  retimed_defined := hcontext.derived none _
  time := by
    simp [Retiming.apply, Retiming.tempo]
  lengthScale := by
    rw [derived_lengthScale_value]
    exact div_eq_inv_mul _ _
  durationScale := by
    rw [derived_durationScale_value]
    exact div_eq_inv_mul _ _
  same := rfl

/-- An event at a tempo that begins at a time, compared to the event without the tempo. -/
structure Event.AtTempo (origin : Rat) (ratio : Ratio) (event faster : Event) : Prop where
  /-- Both are at times that have values, the faster one nearer to the beginning. -/
  time : event.time.Defined ∧ faster.time.Defined ∧
    faster.time.value - origin = (event.time.value - origin) / ratio.value
  /-- The length is divided by the ratio. -/
  length : event.length.div ratio = .ok faster.length
  /-- The duration is divided by the ratio. -/
  duration : event.duration.div ratio = .ok faster.duration
  /-- Pitch, volume, channel and all else are the same. -/
  same : faster = { event with
    time := faster.time, length := faster.length, duration := faster.duration }

/-- A ratio that has a value is divided by one of positive value. -/
theorem Ratio.div_eq_ok_of_pos {r ratio : Ratio} (hdefined : r.Defined) (hpos : 0 < ratio.value) :
    r.div ratio = .ok (.ofValue (ratio.value⁻¹ * r.value)) := by
  rw [← div_eq_inv_mul]
  exact div_eq_ok_iff.mpr ⟨hdefined, numer_ne_zero hpos.ne', rfl⟩

/-- Events that are retimed by a tempo are at that tempo. -/
theorem Event.Retimed.atTempo {origin : Rat} {ratio : Ratio} {hpos : 0 < ratio.value}
    {event retimed : Event} (hretimed : event.Retimed (.tempo origin hpos) retimed)
    (hlength : event.length.LowestTerms) (hduration : event.duration.LowestTerms) :
    event.AtTempo origin ratio retimed where
  time := by
    refine ⟨hretimed.defined, hretimed.retimed_defined, ?_⟩
    rw [hretimed.time, Retiming.apply, Retiming.tempo]
    ring
  length := by
    rw [hretimed.length]
    exact Ratio.div_eq_ok_of_pos hlength.defined hpos
  duration := by
    rw [hretimed.duration]
    exact Ratio.div_eq_ok_of_pos hduration.defined hpos
  same := hretimed.same

/-- A tempo only rescales time. Every piece performs at the tempo exactly when it does without, in
the time divided by the ratio and with the same events, which are nearer to the beginning and
shorter by the ratio and otherwise the same, volumes included. Of two pieces that go on together,
the events are woven in the same way, at ties too, and any two events compare in time as they do
without the tempo. -/
theorem perform_withTempo {roster : Option Roster} {context : Context} {ratio : Ratio}
    (hcontext : context.Defined) (hpos : 0 < ratio.value) :
    ∃ faster, context.withTempo ratio = .ok faster ∧
      (∀ piece : Music Payload,
        (∃ quick, (piece.perform roster faster).result = .ok quick) ↔
          ∃ outcome, (piece.perform roster context).result = .ok outcome) ∧
      (∀ (piece : Music Payload) (outcome quick : Outcome),
        (piece.perform roster context).result = .ok outcome →
        (piece.perform roster faster).result = .ok quick →
          outcome.elapsed.div ratio = .ok quick.elapsed ∧
          List.Forall₂ (Event.AtTempo context.time.value ratio) outcome.events quick.events ∧
          ∀ first ∈ outcome.events.zip quick.events, ∀ second ∈ outcome.events.zip quick.events,
            (first.1.time.value < second.1.time.value ↔
              first.2.time.value < second.2.time.value)) ∧
      ∀ (left right : Music Payload) (outcome quick : Outcome),
        ((Music.par left right).perform roster context).result = .ok outcome →
        ((Music.par left right).perform roster faster).result = .ok quick →
          ∃ l r l' r' sides,
            (left.perform roster context).result = .ok l ∧
            (right.perform roster context).result = .ok r ∧
            (left.perform roster faster).result = .ok l' ∧
            (right.perform roster faster).result = .ok r' ∧
            Performance.Woven sides l.events r.events outcome.events ∧
            Performance.Woven sides l'.events r'.events quick.events := by
  have hretimed := hcontext.retimed_tempo hpos
  refine ⟨context.derived none (.tempo ratio), ?_, hretimed.performs_iff roster, ?_, ?_⟩
  · have hnumer := Ratio.numer_ne_zero hpos.ne'
    exact Context.withTempo_eq_ok_iff.mpr
      ⟨⟨hcontext.lengthScale, hcontext.durationScale, hnumer⟩, rfl⟩
  · intro piece outcome quick hok hquick
    have hlowest := (Music.perform_result_iff.mp hok).lowestTerms
    have houtcome := hretimed.outcome_retimed hok hquick
    refine ⟨?_, ?_, ?_⟩
    · rw [houtcome.elapsed]
      exact Ratio.div_eq_ok_of_pos hlowest.elapsed.defined hpos
    · exact houtcome.forall₂_events hlowest fun _ _ hevent => hevent.atTempo
    · intro first hfirst second hsecond
      have hfirstEvent := List.forall₂_zip houtcome.events hfirst
      have hsecondEvent := List.forall₂_zip houtcome.events hsecond
      exact hfirstEvent.time_lt_iff hsecondEvent
  · intro left right outcome quick hok hquick
    obtain ⟨l, r, hl, hr, rfl⟩ :=
      (Performs.par_iff hcontext).mp (Music.perform_result_iff.mp hok)
    obtain ⟨l', r', hl', hr', rfl⟩ :=
      (Performs.par_iff hretimed.retimed_defined).mp (Music.perform_result_iff.mp hquick)
    have hleft := Music.perform_result_iff.mpr hl
    have hright := Music.perform_result_iff.mpr hr
    have hleft' := Music.perform_result_iff.mpr hl'
    have hright' := Music.perform_result_iff.mpr hr'
    obtain ⟨sides, hwoven, hwoven'⟩ := Performance.exists_woven_interleave
      (fun _ _ _ _ hl hr => hl.time_lt_iff hr) (hretimed.outcome_retimed hleft hleft').events
      (hretimed.outcome_retimed hright hright').events
    exact ⟨l, r, l', r', sides, hleft, hright, hleft', hright', hwoven, hwoven'⟩

open Performance in
/-- The specimen at half past its tempo: two thirds of the time, and the accent and the crescendo as
before. -/
theorem specimen_at_tempo :
    (Context.standard.Defined ∧ 0 < (⟨3, 2⟩ : Ratio).value) ∧
    ∃ faster quick, Context.standard.withTempo ⟨3, 2⟩ = .ok faster ∧
      (specimen.perform (some .standard) faster).result = .ok quick ∧
      quick.elapsed = ⟨2, 3⟩ ∧
      List.Forall₂ (Event.AtTempo 0 ⟨3, 2⟩) specimenOutcome.events quick.events := by
  have hpos : 0 < (⟨3, 2⟩ : Ratio).value := by decide +kernel
  obtain ⟨faster, hfaster, hperforms, hcompare, _⟩ :=
    perform_withTempo Context.standard_defined hpos
  obtain ⟨quick, hquick⟩ := (hperforms specimen).mpr ⟨specimenOutcome, perform_specimen⟩
  obtain ⟨helapsed, hevents, _⟩ := hcompare specimen specimenOutcome quick perform_specimen hquick
  have hdiv : specimenOutcome.elapsed.div ⟨3, 2⟩ = .ok ⟨2, 3⟩ := by decide +kernel
  have horigin : Context.standard.time.value = 0 := Ratio.value_zero
  rw [horigin] at hevents
  exact ⟨⟨Context.standard_defined, hpos⟩, faster, quick, hfaster, hquick,
    Except.ok.inj (helapsed.symm.trans hdiv), hevents⟩

end Polyphony
