import Polyphony.Proofs.Journal.Safety
import Polyphony.Proofs.Music.Attribute
import Polyphony.Proofs.Player.Phrase

/-!
# How a phrase may fail

Where amounts, times and durations have values, shaping divides by zero nowhere: a ramp without time
to rise in is left out. All that can fail is a new volume, which may be too large for a double, and
only dynamics ask for new volumes.
-/

namespace Polyphony

/-- A ratio that has a value has a nearest double, unless it is too large for one. -/
theorem Ratio.Defined.toBinary64_safe {r : Ratio} (hdefined : r.Defined) :
    SafeUpTo True .ratioTooLarge r.toBinary64 := by
  rw [Ratio.toBinary64, if_neg hdefined]
  cases Binary64.ofQuotient? r.numer r.denom with
  | none => exact .inr ⟨trivial, rfl⟩
  | some x => exact .of_ok rfl

/-- The ratios of the event that shaping works on have values. -/
structure Event.Defined (event : Event) : Prop where
  /-- The start has a value. -/
  time : event.time.Defined
  /-- The time that the event sounds has a value. -/
  duration : event.duration.Defined

namespace Player

variable {amount elapsed start rate time : Ratio} {events : List Event}

theorem accentedVolume_safe (hamount : amount.Defined) (volume : Int) :
    SafeUpTo True .ratioTooLarge (accentedVolume amount volume) :=
  .step (hamount.mul_eq (Ratio.ofInt_defined volume)) <|
    (Ratio.ofValue_defined _).toBinary64_safe.bind_pure

theorem rampVolume_safe (hstart : start.Defined) (hrate : rate.Defined) (htime : time.Defined)
    (volume : Int) : SafeUpTo True .ratioTooLarge (rampVolume start rate time volume) := by
  refine .step (htime.sub_eq hstart) ?_
  refine .step ((Ratio.ofValue_defined _).mul_eq hrate) ?_
  refine .step ((Ratio.ofValue_defined _).add_eq (Ratio.ofInt_defined 1)) ?_
  refine .step ((Ratio.ofValue_defined _).mul_eq (Ratio.ofInt_defined volume)) ?_
  exact (Ratio.ofValue_defined _).toBinary64_safe.bind_pure

theorem accent_safe (hamount : amount.Defined) (events : List Event) :
    SafeUpTo True .ratioTooLarge (accent amount events) :=
  .mapM fun event _ => (accentedVolume_safe hamount event.volume).bind_pure

/-- New durations never fail. -/
theorem articulate_safe (hamount : amount.Defined) (hevents : ∀ event ∈ events, event.Defined) :
    SafeUpTo False .ratioTooLarge (articulate amount events) :=
  .mapM fun event hevent => .step ((hevents event hevent).duration.mul_eq hamount) (.of_ok rfl)

/-- On a ramp whose rate has a value, nothing but a volume can fail. -/
theorem onRamp_safe (hstart : start.Defined) (hrate : rate.Defined)
    (hevents : ∀ event ∈ events, event.Defined) :
    SafeUpTo True .ratioTooLarge (events.mapM (onRamp start rate)) := by
  refine .mapM fun event hevent => ?_
  have htime := (hevents event hevent).time
  exact (rampVolume_safe hstart hrate htime event.volume).bind_pure

/-- A ramp takes the quotient of its amount and the elapsed time only where time has elapsed. -/
theorem ramp_safe (falling : Bool) (hamount : amount.Defined) (helapsed : elapsed.Defined)
    (hevents : ∀ event ∈ events, event.Defined) :
    SafeUpTo True .ratioTooLarge (ramp falling amount elapsed events) := by
  cases events with
  | nil => exact .of_ok rfl
  | cons first rest =>
    have hfirst := (hevents first List.mem_cons_self).time
    rw [ramp_cons]
    refine .step (Ratio.eq_eq_ok_iff.mpr ⟨helapsed, Ratio.zero_defined, rfl⟩) ?_
    by_cases hstill : elapsed.value = Ratio.zero.value
    · exact .of_ok (if_pos (decide_eq_true hstill))
    · have hnumer : elapsed.numer ≠ 0 :=
        mt helapsed.numer_eq_zero_iff.mp (Ratio.value_zero ▸ hstill)
      rw [if_neg (by simpa using hstill)]
      refine .step (rampRate_eq_ok_iff.mpr ⟨hamount, hnumer, rfl⟩) ?_
      exact onRamp_safe hfirst (Ratio.ofValue_defined _) hevents

/-- An attribute can fail only by a volume, and only if it is a dynamic. -/
theorem applyPhraseAttribute_safe (player : Player) {attr : PhraseAttribute}
    (hamount : attr.amount.Defined) (helapsed : elapsed.Defined)
    (hevents : ∀ event ∈ events, event.Defined) :
    SafeUpTo attr.Dynamic .ratioTooLarge (player.applyPhraseAttribute elapsed events attr) := by
  cases attr with
  | accent amount => exact accent_safe hamount events
  | staccato amount | legato amount => exact articulate_safe hamount hevents
  | crescendo amount =>
    obtain ⟨_ | _, name⟩ := player
    · exact .of_ok rfl
    · exact ramp_safe false hamount helapsed hevents
  | diminuendo amount =>
    obtain ⟨_ | _, name⟩ := player
    · exact .of_ok rfl
    · exact ramp_safe true hamount helapsed hevents

/-- The attributes of a phrase can fail only by a volume, and only if there is a dynamic among
them. -/
theorem applyPhraseAttributes_safe (player : Player) {attributes : List PhraseAttribute}
    (hamounts : ∀ attr ∈ attributes, attr.amount.Defined) (helapsed : elapsed.Defined)
    (hevents : ∀ event ∈ events, event.Defined) :
    SafeUpTo (∃ attr ∈ attributes, attr.Dynamic) .ratioTooLarge
      (player.applyPhraseAttributes elapsed events attributes) := by
  induction attributes with
  | nil => exact .of_ok rfl
  | cons attr attributes ih =>
    obtain ⟨hamount, hrest⟩ := List.forall_mem_cons.mp hamounts
    refine ((ih hrest).mono fun ⟨other, hmem, hdynamic⟩ =>
      ⟨other, List.mem_cons_of_mem _ hmem, hdynamic⟩).bind fun between hbetween => ?_
    -- What the later attributes leave is still made of events whose times have values.
    have hbetweenDefined : ∀ event ∈ between, event.Defined := by
      refine forall_mem_of_applyPhraseAttributes (fun _ _ hkept => ⟨hkept.time, hkept.duration⟩) ?_
        hbetween hevents
      intro event amount duration hkept hmul
      obtain ⟨_, _, rfl⟩ := Ratio.mul_eq_ok_iff.mp hmul
      exact ⟨hkept.time, Ratio.ofValue_defined _⟩
    exact (applyPhraseAttribute_safe player hamount helapsed hbetweenDefined).mono
      fun hdynamic => ⟨attr, List.mem_cons_self, hdynamic⟩

end Player

end Polyphony
