import Polyphony.Proofs.Player.Phrase

/-!
# Changes that phrases do not notice

A phrase looks at the times, volumes and durations of its events, and gives them new volumes and
durations. A change of events that keeps out of this may be made before or after the phrase shapes
them, and does not decide whether it can. For the dynamics of a phrase the durations do not count.
-/

namespace Polyphony

/-- The change of events keeps out of what dynamics look at and of what they set. -/
structure Event.KeepsLevels (f : Event → Event) : Prop where
  /-- Events keep their times. -/
  time (event : Event) : (f event).time = event.time
  /-- Events keep their volumes. -/
  volume (event : Event) : (f event).volume = event.volume
  /-- A new volume may be set before or after. -/
  withVolume (event : Event) (volume : Int) : f { event with volume } = { f event with volume }

/-- The change of events keeps out of what phrases look at and of what they set. -/
structure Event.Unnoticed (f : Event → Event) : Prop extends Event.KeepsLevels f where
  /-- Events keep their durations. -/
  duration (event : Event) : (f event).duration = event.duration
  /-- A new duration may be set before or after. -/
  withDuration (event : Event) (duration : Ratio) :
    f { event with duration } = { f event with duration }

namespace Player

variable {f : Event → Event}

/-- Where the change may be made before or after the step for one event, it may be made before or
after the steps for all of them. -/
theorem mapM_map_unnoticed {step : Event → Except Fault Event}
    (hstep : ∀ event, step (f event) = f <$> step event) (events : List Event) :
    (events.map f).mapM step = List.map f <$> events.mapM step := by
  induction events with
  | nil => rfl
  | cons event events ih =>
    rw [List.map_cons, List.mapM_cons, List.mapM_cons, hstep, ih]
    cases step event with
    | error fault => rfl
    | ok shaped => cases events.mapM step <;> rfl

theorem accent_map (hf : Event.KeepsLevels f) (amount : Ratio) (events : List Event) :
    accent amount (events.map f) = List.map f <$> accent amount events := by
  apply mapM_map_unnoticed
  intro event
  rw [hf.volume]
  cases accentedVolume amount event.volume with
  | error fault => rfl
  | ok volume => exact congrArg Except.ok (hf.withVolume event volume).symm

theorem articulate_map (hf : Event.Unnoticed f) (amount : Ratio) (events : List Event) :
    articulate amount (events.map f) = List.map f <$> articulate amount events := by
  apply mapM_map_unnoticed
  intro event
  rw [hf.duration]
  cases event.duration.mul amount with
  | error fault => rfl
  | ok duration => exact congrArg Except.ok (hf.withDuration event duration).symm

/-- A ramp starts at the time of the first event, which the change keeps. -/
theorem onRamp_map (hf : Event.KeepsLevels f) (start rate : Ratio) (events : List Event) :
    (events.map f).mapM (onRamp start rate) =
      List.map f <$> events.mapM (onRamp start rate) := by
  apply mapM_map_unnoticed
  intro event
  have hvolume : rampVolume start rate (f event).time (f event).volume =
      rampVolume start rate event.time event.volume := by rw [hf.time, hf.volume]
  rw [onRamp, onRamp, hvolume]
  cases rampVolume start rate event.time event.volume with
  | error fault => rfl
  | ok volume => exact congrArg Except.ok (hf.withVolume event volume).symm

theorem ramp_map (hf : Event.KeepsLevels f) (falling : Bool) (amount elapsed : Ratio)
    (events : List Event) :
    ramp falling amount elapsed (events.map f) =
      List.map f <$> ramp falling amount elapsed events := by
  cases events with
  | nil => rfl
  | cons first rest =>
    have hslope (rate : Ratio) := onRamp_map hf first.time rate (first :: rest)
    rw [List.map_cons] at hslope ⊢
    rw [ramp_cons, ramp_cons, hf.time]
    cases elapsed.eq .zero with
    | error fault => rfl
    | ok still =>
      cases still with
      | true => rfl
      | false =>
        cases rampRate falling amount elapsed with
        | error fault => rfl
        | ok rate => exact hslope rate

/-- The change may be made before or after an attribute is applied. -/
theorem applyPhraseAttribute_map (hf : Event.Unnoticed f) (player : Player) (elapsed : Ratio)
    (events : List Event) (attr : PhraseAttribute) :
    player.applyPhraseAttribute elapsed (events.map f) attr =
      List.map f <$> player.applyPhraseAttribute elapsed events attr := by
  obtain hsame | ⟨amount, haccent⟩ | ⟨amount, harticulate⟩ | ⟨falling, amount, hramp⟩ :=
    applyPhraseAttribute_cases player attr
  · rw [hsame, hsame]
    rfl
  · rw [haccent, haccent, accent_map hf.toKeepsLevels]
  · rw [harticulate, harticulate, articulate_map hf]
  · rw [hramp, hramp, ramp_map hf.toKeepsLevels]

/-- The change may be made before or after a phrase shapes the events. -/
theorem applyPhraseAttributes_map (hf : Event.Unnoticed f) (player : Player) (elapsed : Ratio)
    (events : List Event) (attributes : List PhraseAttribute) :
    player.applyPhraseAttributes elapsed (events.map f) attributes =
      List.map f <$> player.applyPhraseAttributes elapsed events attributes := by
  induction attributes with
  | nil => rfl
  | cons attr attributes ih =>
    rw [applyPhraseAttributes, applyPhraseAttributes, ih]
    cases player.applyPhraseAttributes elapsed events attributes with
    | error fault => rfl
    | ok between => exact applyPhraseAttribute_map hf player elapsed between attr

end Player

end Polyphony
