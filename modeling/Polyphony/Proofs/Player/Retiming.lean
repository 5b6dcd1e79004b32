import Mathlib.Tactic.Linarith
import Polyphony.Proofs.Player.Phrase

/-!
# Changes of time

A change of time stretches times by a positive factor and then shifts them. Events that differ by
such a change are shaped by a phrase into events that differ by it. For a ramp this is so because it
starts where its first event does and because its rate makes up for the stretching, so that every
event stands at the same level of the ramp.
-/

namespace Polyphony

/-- A stretching of time by a positive factor, followed by a shift. -/
structure Retiming where
  /-- The factor by which times are stretched. -/
  factor : Rat
  /-- What is added to stretched times. -/
  shift : Rat
  /-- Time keeps its direction. -/
  factor_pos : 0 < factor

namespace Retiming

variable (retiming : Retiming)

/-- The changed time. -/
def apply (time : Rat) : Rat := retiming.factor * time + retiming.shift

/-- A change of time keeps earlier and later apart. -/
theorem apply_lt_apply_iff (a b : Rat) : retiming.apply a < retiming.apply b ↔ a < b := by
  rw [apply, apply, add_lt_add_iff_right]
  exact mul_lt_mul_iff_right₀ retiming.factor_pos

/-- Spans of time are stretched, and not shifted. -/
theorem apply_sub_apply (a b : Rat) :
    retiming.apply a - retiming.apply b = retiming.factor * (a - b) := by
  rw [apply, apply]
  ring

theorem apply_add (time elapsed : Rat) :
    retiming.apply (time + elapsed) = retiming.apply time + retiming.factor * elapsed := by
  rw [apply, apply]
  ring

/-- The change back. -/
def inverse : Retiming where
  factor := retiming.factor⁻¹
  shift := -(retiming.factor⁻¹ * retiming.shift)
  factor_pos := inv_pos.mpr retiming.factor_pos

theorem inverse_apply_apply (time : Rat) :
    retiming.inverse.apply (retiming.apply time) = time := by
  have hfactor := retiming.factor_pos.ne'
  simp only [inverse, apply]
  field_simp
  ring

theorem inverse_factor_mul (value : Rat) :
    retiming.inverse.factor * (retiming.factor * value) = value :=
  inv_mul_cancel_left₀ retiming.factor_pos.ne' value

end Retiming

/-- An event after a change of time. -/
structure Event.Retimed (retiming : Retiming) (event retimed : Event) : Prop where
  /-- The event is at a time that has a value. -/
  defined : event.time.Defined
  /-- So is the changed one. -/
  retimed_defined : retimed.time.Defined
  /-- The time is changed. -/
  time : retimed.time.value = retiming.apply event.time.value
  /-- The length is stretched. -/
  length : retimed.length = .ofValue (retiming.factor * event.length.value)
  /-- The duration is stretched. -/
  duration : retimed.duration = .ofValue (retiming.factor * event.duration.value)
  /-- All else is as before. -/
  same : retimed = { event with
    time := retimed.time, length := retimed.length, duration := retimed.duration }

namespace Event.Retimed

variable {retiming : Retiming} {event retimed : Event}

theorem volume (hretimed : event.Retimed retiming retimed) : retimed.volume = event.volume :=
  (congrArg Event.volume hretimed.same :)

/-- A new volume changes nothing about the times. -/
theorem withVolume (hretimed : event.Retimed retiming retimed) (volume : Int) :
    Retimed retiming { event with volume } { retimed with volume } where
  defined := hretimed.defined
  retimed_defined := hretimed.retimed_defined
  time := hretimed.time
  length := hretimed.length
  duration := hretimed.duration
  same := congrArg (fun event => { event with volume }) hretimed.same

/-- Durations are stretched before or after they are scaled. -/
theorem withDuration (hretimed : event.Retimed retiming retimed) (amount : Rat) :
    Retimed retiming { event with duration := .ofValue (event.duration.value * amount) }
      { retimed with duration := .ofValue (retimed.duration.value * amount) } where
  defined := hretimed.defined
  retimed_defined := hretimed.retimed_defined
  time := hretimed.time
  length := hretimed.length
  duration := by
    rw [hretimed.duration, Ratio.value_ofValue, Ratio.value_ofValue, mul_assoc]
  same := congrArg
    (fun event => { event with duration := .ofValue (retimed.duration.value * amount) })
    hretimed.same

/-- Events compare by their times as they did before. -/
theorem time_lt_iff {left left' right right' : Event} (hleft : left.Retimed retiming left')
    (hright : right.Retimed retiming right') :
    left.time.value < right.time.value ↔ left'.time.value < right'.time.value := by
  rw [hleft.time, hright.time, retiming.apply_lt_apply_iff]

end Event.Retimed

namespace Player

variable {retiming : Retiming}

/-- The volume on a ramp in terms of the values of its times. -/
theorem rampVolume_eq_ok_iff {start rate time : Ratio} {volume ramped : Int} :
    rampVolume start rate time volume = .ok ramped ↔
      time.Defined ∧ start.Defined ∧ rate.Defined ∧
        ∃ level, (Ratio.ofValue (((time.value - start.value) * rate.value + 1) * volume)).toBinary64 =
          .ok level ∧ max Velocity.lowest level.nearestInteger = ramped := by
  have hone : Ratio.one.Defined ∧ Ratio.one.value = 1 := by decide +kernel
  simp only [rampVolume, bind_eq_ok_iff, Ratio.sub_eq_ok_iff, Ratio.mul_eq_ok_iff,
    Ratio.add_eq_ok_iff, pure_eq_ok_iff]
  constructor
  · rintro ⟨_, ⟨htime, hstart, rfl⟩, _, ⟨_, hrate, rfl⟩, _, ⟨_, _, rfl⟩, _, ⟨_, _, rfl⟩, hlevel⟩
    refine ⟨htime, hstart, hrate, ?_⟩
    simpa only [Ratio.value_ofValue, hone.2, Ratio.value_ofInt] using hlevel
  · rintro ⟨htime, hstart, hrate, hlevel⟩
    refine ⟨_, ⟨htime, hstart, rfl⟩, _, ⟨Ratio.ofValue_defined _, hrate, rfl⟩, _,
      ⟨Ratio.ofValue_defined _, hone.1, rfl⟩, _,
      ⟨Ratio.ofValue_defined _, Ratio.ofInt_defined volume, rfl⟩, ?_⟩
    simpa only [Ratio.value_ofValue, hone.2, Ratio.value_ofInt] using hlevel

/-- Stretched time is made up for by the slope of a ramp. -/
theorem slope_retimed (falling : Bool) (amount elapsed : Ratio) :
    slope falling amount (.ofValue (retiming.factor * elapsed.value)) =
      slope falling amount elapsed / retiming.factor := by
  have hquotient : amount.value / (retiming.factor * elapsed.value) =
      amount.value / elapsed.value / retiming.factor := by
    rw [div_div, mul_comm]
  cases falling with
  | false => simp [slope, hquotient]
  | true => simp [slope, hquotient, neg_div]

/-- On a ramp, retimed events get the volumes that they got before. -/
theorem exists_onRamp {start start' : Ratio} (hstart : start'.Defined)
    (hstartValue : start'.value = retiming.apply start.value) {slope : Rat}
    {event retimed shaped : Event} (hretimed : event.Retimed retiming retimed)
    (hshaped : onRamp start (.ofValue slope) event = .ok shaped) :
    ∃ shaped', onRamp start' (.ofValue (slope / retiming.factor)) retimed = .ok shaped' ∧
      shaped.Retimed retiming shaped' := by
  obtain ⟨volume, hvolume, rfl⟩ := by simpa [onRamp] using hshaped
  obtain ⟨_, _, _, hlevel⟩ := rampVolume_eq_ok_iff.mp hvolume
  have hpassed : (retimed.time.value - start'.value) * (slope / retiming.factor) =
      (event.time.value - start.value) * slope := by
    have hfactor := retiming.factor_pos.ne'
    rw [hretimed.time, hstartValue, retiming.apply_sub_apply]
    field_simp
  have hvolume' : rampVolume start' (.ofValue (slope / retiming.factor)) retimed.time
      retimed.volume = .ok volume := by
    refine rampVolume_eq_ok_iff.mpr
      ⟨hretimed.retimed_defined, hstart, Ratio.ofValue_defined _, ?_⟩
    rw [hretimed.volume, Ratio.value_ofValue, hpassed]
    rwa [Ratio.value_ofValue] at hlevel
  exact ⟨{ retimed with volume }, bind_eq_ok_iff.mpr ⟨volume, hvolume', rfl⟩,
    hretimed.withVolume volume⟩

theorem exists_accent {amount : Ratio} {events retimed shaped : List Event}
    (hretimed : List.Forall₂ (Event.Retimed retiming) events retimed)
    (hshaped : accent amount events = .ok shaped) :
    ∃ shaped', accent amount retimed = .ok shaped' ∧
      List.Forall₂ (Event.Retimed retiming) shaped shaped' := by
  refine exists_mapM_eq_ok (fun event event' result hevent hresult => ?_) hretimed hshaped
  obtain ⟨volume, hvolume, rfl⟩ := by simpa using hresult
  rw [← hevent.volume] at hvolume
  exact ⟨{ event' with volume }, bind_eq_ok_iff.mpr ⟨volume, hvolume, rfl⟩,
    hevent.withVolume volume⟩

theorem exists_articulate {amount : Ratio} {events retimed shaped : List Event}
    (hretimed : List.Forall₂ (Event.Retimed retiming) events retimed)
    (hshaped : articulate amount events = .ok shaped) :
    ∃ shaped', articulate amount retimed = .ok shaped' ∧
      List.Forall₂ (Event.Retimed retiming) shaped shaped' := by
  refine exists_mapM_eq_ok (fun event event' result hevent hresult => ?_) hretimed hshaped
  obtain ⟨duration, hmul, rfl⟩ := by simpa using hresult
  obtain ⟨_, hamount, rfl⟩ := Ratio.mul_eq_ok_iff.mp hmul
  have hdefined : event'.duration.Defined := by
    rw [hevent.duration]
    exact Ratio.ofValue_defined _
  exact ⟨_, bind_eq_ok_iff.mpr ⟨_, Ratio.mul_eq_ok_iff.mpr ⟨hdefined, hamount, rfl⟩, rfl⟩,
    hevent.withDuration amount.value⟩

theorem exists_ramp {falling : Bool} {amount elapsed : Ratio} {events retimed shaped : List Event}
    (hretimed : List.Forall₂ (Event.Retimed retiming) events retimed)
    (hshaped : ramp falling amount elapsed events = .ok shaped) :
    ∃ shaped', ramp falling amount (.ofValue (retiming.factor * elapsed.value)) retimed =
        .ok shaped' ∧ List.Forall₂ (Event.Retimed retiming) shaped shaped' := by
  cases hretimed with
  | nil =>
    obtain rfl : [] = shaped := by simpa [ramp] using hshaped
    exact ⟨[], rfl, .nil⟩
  | @cons first first' rest rest' hfirst hrest =>
    have hfactor := retiming.factor_pos.ne'
    simp only [ramp_cons_eq_ok_iff, Ratio.value_ofValue, slope_retimed, mul_eq_zero, hfactor,
      false_or, Ratio.ofValue_defined, true_and] at hshaped ⊢
    obtain ⟨_, ⟨hstill, rfl⟩ | ⟨hmoving, hamount, hmap⟩⟩ := hshaped
    · exact ⟨first' :: rest', .inl ⟨hstill, rfl⟩, .cons hfirst hrest⟩
    · have hstep (event event' result : Event) (hevent : event.Retimed retiming event')
          (hresult : onRamp first.time (.ofValue (slope falling amount elapsed)) event =
            .ok result) :=
        exists_onRamp hfirst.retimed_defined hfirst.time hevent hresult
      obtain ⟨shaped', hshaped', hrelated⟩ :=
        exists_mapM_eq_ok hstep (.cons hfirst hrest) hmap
      exact ⟨shaped', .inr ⟨mul_ne_zero hfactor hmoving, hamount, hshaped'⟩, hrelated⟩

/-- A single attribute shapes retimed events as it shaped them before. -/
theorem exists_applyPhraseAttribute {player : Player} {elapsed : Ratio} {attr : PhraseAttribute}
    {events retimed shaped : List Event}
    (hretimed : List.Forall₂ (Event.Retimed retiming) events retimed)
    (hshaped : player.applyPhraseAttribute elapsed events attr = .ok shaped) :
    ∃ shaped', player.applyPhraseAttribute (.ofValue (retiming.factor * elapsed.value)) retimed
        attr = .ok shaped' ∧ List.Forall₂ (Event.Retimed retiming) shaped shaped' := by
  obtain hsame | ⟨amount, haccent⟩ | ⟨amount, harticulate⟩ | ⟨falling, amount, hramp⟩ :=
    applyPhraseAttribute_cases player attr
  · obtain rfl := Except.ok.inj ((hsame elapsed events).symm.trans hshaped)
    exact ⟨retimed, hsame _ _, hretimed⟩
  · rw [haccent] at hshaped ⊢
    exact exists_accent hretimed hshaped
  · rw [harticulate] at hshaped ⊢
    exact exists_articulate hretimed hshaped
  · rw [hramp] at hshaped ⊢
    exact exists_ramp hretimed hshaped

/-- A phrase shapes retimed events as it shaped them before. -/
theorem exists_applyPhraseAttributes {player : Player} {elapsed : Ratio}
    {attributes : List PhraseAttribute} {events retimed shaped : List Event}
    (hretimed : List.Forall₂ (Event.Retimed retiming) events retimed)
    (hshaped : player.applyPhraseAttributes elapsed events attributes = .ok shaped) :
    ∃ shaped', player.applyPhraseAttributes (.ofValue (retiming.factor * elapsed.value)) retimed
        attributes = .ok shaped' ∧ List.Forall₂ (Event.Retimed retiming) shaped shaped' := by
  induction attributes generalizing shaped with
  | nil =>
    obtain rfl : events = shaped := by simpa [applyPhraseAttributes] using hshaped
    exact ⟨retimed, rfl, hretimed⟩
  | cons attr attributes ih =>
    obtain ⟨between, hbetween, hlast⟩ := bind_eq_ok_iff.mp hshaped
    obtain ⟨between', hbetween', hrelated⟩ := ih hbetween
    obtain ⟨shaped', hshaped', hrelated'⟩ := exists_applyPhraseAttribute hrelated hlast
    exact ⟨shaped', bind_eq_ok_iff.mpr ⟨between', hbetween', hshaped'⟩, hrelated'⟩

end Player

end Polyphony
