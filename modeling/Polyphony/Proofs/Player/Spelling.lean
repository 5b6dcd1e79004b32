import Polyphony.Proofs.Music.Spelling
import Polyphony.Proofs.Player.Phrase

/-!
# Events of spellings

Two events are the same when their times have one value each and all else is equal, up to a relation
of their further numbers. A phrase shapes events that are the same into events that are the same: a
volume is read off a ratio that was calculated, and a calculated ratio is in lowest terms.
-/

namespace Polyphony

/-- The events are one note, with times of one value each and related further numbers. -/
structure Event.Same (R : List Binary64 → List Binary64 → Prop) (event event' : Event) : Prop where
  /-- The times have one value. -/
  time : event.time.Same event'.time
  /-- The lengths have one value. -/
  length : event.length.Same event'.length
  /-- The durations have one value. -/
  duration : event.duration.Same event'.duration
  /-- The further numbers are related. -/
  params : R event.params event'.params
  /-- All else is equal. -/
  same : event' = { event with
    time := event'.time, length := event'.length, duration := event'.duration,
    params := event'.params }

namespace Event.Same

variable {R : List Binary64 → List Binary64 → Prop} {event event' : Event}

theorem volume (hsame : event.Same R event') : event'.volume = event.volume :=
  (congrArg Event.volume hsame.same :)

theorem withVolume (hsame : event.Same R event') (volume : Int) :
    Same R { event with volume } { event' with volume } where
  time := hsame.time
  length := hsame.length
  duration := hsame.duration
  params := hsame.params
  same := congrArg (fun event => { event with volume }) hsame.same

theorem withDuration (hsame : event.Same R event') {duration duration' : Ratio}
    (hduration : duration.Same duration') :
    Same R { event with duration } { event' with duration := duration' } where
  time := hsame.time
  length := hsame.length
  duration := hduration
  params := hsame.params
  same := congrArg (fun event => { event with duration := duration' }) hsame.same

/-- Events compare by their times alike in any spelling. -/
theorem time_lt_iff {left left' right right' : Event} (hleft : left.Same R left')
    (hright : right.Same R right') :
    left.time.value < right.time.value ↔ left'.time.value < right'.time.value := by
  rw [hleft.time.value, hright.time.value]

/-- Events that are the same are at times that have values. -/
theorem forall_defined {events events' : List Event}
    (hevents : List.Forall₂ (Event.Same R) events events') :
    (∀ event ∈ events, event.time.Defined) ∧ ∀ event ∈ events', event.time.Defined := by
  induction hevents with
  | nil => exact ⟨List.forall_mem_nil _, List.forall_mem_nil _⟩
  | cons hevent _ ih =>
    exact ⟨List.forall_mem_cons.mpr ⟨hevent.time.left, ih.1⟩,
      List.forall_mem_cons.mpr ⟨hevent.time.right, ih.2⟩⟩

/-- Events with further numbers that are equal as doubles compare as equal. -/
theorem eq_eq_ok (hsame : event.Same (fun xs ys => sameParams xs ys) event') :
    event.eq event' = .ok true := by
  obtain ⟨htime, hlength, hduration, hparams, hsame⟩ := hsame
  rw [hsame]
  simp [Event.eq, Ratio.eq_iff_same.mpr htime, Ratio.eq_iff_same.mpr hlength,
    Ratio.eq_iff_same.mpr hduration, hparams, bind, Except.bind, pure, Except.pure]

end Event.Same

namespace Player

variable {R : List Binary64 → List Binary64 → Prop}

/-- The volume of an accent does not depend on the spelling of the amount. -/
theorem accentedVolume_matched {amount amount' : Ratio} (hamount : amount.Same amount')
    (volume : Int) : Matched Eq (accentedVolume amount volume) (accentedVolume amount' volume) := by
  refine (hamount.mul_matched (Ratio.ofInt_defined volume).same).bind ?_
  rintro scaled _ ⟨rfl, _⟩
  exact .refl _

/-- The volume on a ramp does not depend on the spelling of the times. -/
theorem rampVolume_matched {start start' rate rate' time time' : Ratio} (hstart : start.Same start')
    (hrate : rate.Same rate') (htime : time.Same time') (volume : Int) :
    Matched Eq (rampVolume start rate time volume) (rampVolume start' rate' time' volume) := by
  refine (htime.sub_matched hstart).bind fun passed passed' hpassed => ?_
  refine (hpassed.same.mul_matched hrate).bind ?_
  rintro change _ ⟨rfl, _⟩
  exact .refl _

variable {events events' : List Event}

theorem accent_matched {amount amount' : Ratio} (hamount : amount.Same amount')
    (hevents : List.Forall₂ (Event.Same R) events events') :
    Matched (List.Forall₂ (Event.Same R)) (accent amount events) (accent amount' events') := by
  refine .mapM hevents fun event event' hevent => ?_
  rw [hevent.volume]
  refine (accentedVolume_matched hamount event.volume).bind ?_
  rintro volume _ rfl
  exact .pure (hevent.withVolume volume)

theorem articulate_matched {amount amount' : Ratio} (hamount : amount.Same amount')
    (hevents : List.Forall₂ (Event.Same R) events events') :
    Matched (List.Forall₂ (Event.Same R)) (articulate amount events)
      (articulate amount' events') := by
  refine .mapM hevents fun event event' hevent => ?_
  refine (hevent.duration.mul_matched hamount).bind fun duration duration' hduration => ?_
  exact .pure (hevent.withDuration hduration.same)

/-- Events are put on a slope alike in any spelling. -/
theorem onRamp_matched {start start' rate rate' : Ratio} (hstart : start.Same start')
    (hrate : rate.Same rate') (hevents : List.Forall₂ (Event.Same R) events events') :
    Matched (List.Forall₂ (Event.Same R)) (events.mapM (onRamp start rate))
      (events'.mapM (onRamp start' rate')) := by
  refine .mapM hevents fun event event' hevent => ?_
  rw [onRamp, onRamp, hevent.volume]
  refine (rampVolume_matched hstart hrate hevent.time event.volume).bind ?_
  rintro volume _ rfl
  exact .pure (hevent.withVolume volume)

/-- The rate of a ramp has one value in any spelling. -/
theorem rampRate_matched (falling : Bool) {amount amount' elapsed elapsed' : Ratio}
    (hamount : amount.Same amount') (helapsed : elapsed.Same elapsed') :
    Matched Ratio.Same (rampRate falling amount elapsed) (rampRate falling amount' elapsed') := by
  refine (hamount.div_matched helapsed).bind fun quotient quotient' hquotient => ?_
  cases falling with
  | false => exact .pure hquotient.same
  | true => exact hquotient.same.neg_matched.imp fun _ _ hagree => hagree.same

theorem ramp_matched (falling : Bool) {amount amount' elapsed elapsed' : Ratio}
    (hamount : amount.Same amount') (helapsed : elapsed.Same elapsed')
    (hevents : List.Forall₂ (Event.Same R) events events') :
    Matched (List.Forall₂ (Event.Same R)) (ramp falling amount elapsed events)
      (ramp falling amount' elapsed' events') := by
  cases hevents with
  | nil => exact .pure .nil
  | @cons first first' rest rest' hfirst hrest =>
    rw [ramp_cons, ramp_cons]
    refine (Matched.of_eq (helapsed.compare_eq Ratio.zero_defined.same)).bind ?_
    rintro still _ rfl
    cases still with
    | true => exact .pure (.cons hfirst hrest)
    | false =>
      refine (rampRate_matched falling hamount helapsed).bind fun rate rate' hrate => ?_
      exact onRamp_matched hfirst.time hrate (.cons hfirst hrest)

/-- An attribute shapes events alike in any spelling. -/
theorem applyPhraseAttribute_matched (player : Player) {attr attr' : PhraseAttribute}
    {elapsed elapsed' : Ratio} (hattr : attr.Same attr') (helapsed : elapsed.Same elapsed')
    (hevents : List.Forall₂ (Event.Same R) events events') :
    Matched (List.Forall₂ (Event.Same R)) (player.applyPhraseAttribute elapsed events attr)
      (player.applyPhraseAttribute elapsed' events' attr') := by
  cases hattr with
  | accent hamount => exact accent_matched hamount hevents
  | staccato hamount => exact articulate_matched hamount hevents
  | legato hamount => exact articulate_matched hamount hevents
  | crescendo hamount =>
    obtain ⟨_ | _, name⟩ := player
    · exact .pure hevents
    · exact ramp_matched false hamount helapsed hevents
  | diminuendo hamount =>
    obtain ⟨_ | _, name⟩ := player
    · exact .pure hevents
    · exact ramp_matched true hamount helapsed hevents

/-- A phrase shapes events alike in any spelling. -/
theorem applyPhraseAttributes_matched (player : Player)
    {attributes attributes' : List PhraseAttribute} {elapsed elapsed' : Ratio}
    (hattributes : List.Forall₂ PhraseAttribute.Same attributes attributes')
    (helapsed : elapsed.Same elapsed') (hevents : List.Forall₂ (Event.Same R) events events') :
    Matched (List.Forall₂ (Event.Same R)) (player.applyPhraseAttributes elapsed events attributes)
      (player.applyPhraseAttributes elapsed' events' attributes') := by
  induction hattributes with
  | nil => exact .pure hevents
  | cons hattr _ ih =>
    exact ih.bind fun between between' hbetween =>
      applyPhraseAttribute_matched player hattr helapsed hbetween

end Player

end Polyphony
