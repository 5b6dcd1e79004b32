import Polyphony.Proofs.Journal.Consistent
import Polyphony.Proofs.Player.Note
import Polyphony.Proofs.Player.Retiming
import Polyphony.Proofs.Player.Unnoticed
import Polyphony.Proofs.Ratio.Spelling

/-!
# Events in step

Two events are in step when they come at one time, with one length and one duration, and differ in
nothing but traits that they need not share: volume, pitch and channel. Phrases keep events in step,
since the volumes that they look at lead to volumes only.
-/

namespace Polyphony

/-- One ratio, or two spellings of one value. -/
def Ratio.Alike (r s : Ratio) : Prop := r = s ∨ r.Same s

theorem Ratio.Alike.value {r s : Ratio} (halike : r.Alike s) : r.value = s.value := by
  rcases halike with rfl | hsame
  · rfl
  · exact hsame.value

/-- What two performances in step may share besides. -/
structure Traits where
  /-- They spell the times of their events in one way. -/
  spelling : Prop
  /-- Their events have one volume. -/
  volume : Prop
  /-- Their events have one pitch. -/
  pitch : Prop
  /-- Their events are on one channel. -/
  channel : Prop

/-- The events are in step, and share the traits. -/
structure Event.InStep (traits : Traits) (event event' : Event) : Prop where
  /-- They come at one time. -/
  time : event.time.Alike event'.time
  /-- They have one length. -/
  length : event.length = event'.length
  /-- They have one duration. -/
  duration : event.duration = event'.duration
  /-- Both start a note, or neither. -/
  on : event.on = event'.on
  /-- They have the same further numbers. -/
  params : event.params = event'.params
  /-- The time is spelled in one way, if that is shared. -/
  spelling : traits.spelling → event.time = event'.time
  /-- They have one volume, if that is shared. -/
  volume : traits.volume → event.volume = event'.volume
  /-- They have one pitch, if that is shared. -/
  pitch : traits.pitch → event.pitch = event'.pitch
  /-- They are on one channel, if that is shared. -/
  channel : traits.channel → event.channel = event'.channel

namespace Event.InStep

variable {traits : Traits} {event event' : Event}

theorem withVolume (hstep : event.InStep traits event') {volume volume' : Int}
    (hvolume : traits.volume → volume = volume') :
    InStep traits { event with volume } { event' with volume := volume' } :=
  { hstep with volume := hvolume }

theorem withDuration (hstep : event.InStep traits event') (duration : Ratio) :
    InStep traits { event with duration } { event' with duration } :=
  { hstep with duration := rfl }

/-- Events in step compare by their times alike. -/
theorem time_lt_iff {left left' right right' : Event} (hleft : left.InStep traits left')
    (hright : right.InStep traits right') :
    left.time.value < right.time.value ↔ left'.time.value < right'.time.value := by
  rw [hleft.time.value, hright.time.value]

end Event.InStep

namespace Player

variable {traits : Traits} {events events' : List Event}

/-- The volume on a ramp depends on the values of the times. -/
theorem rampVolume_consistent {start start' time time' : Ratio}
    (hstart : start.value = start'.value) (htime : time.value = time'.value) (rate : Ratio)
    (volume : Int) :
    Consistent Eq (rampVolume start rate time volume) (rampVolume start' rate time' volume) := by
  intro ramped ramped' hramped hramped'
  obtain ⟨_, _, _, level, hlevel, hclamped⟩ := rampVolume_eq_ok_iff.mp hramped
  obtain ⟨_, _, _, level', hlevel', hclamped'⟩ := rampVolume_eq_ok_iff.mp hramped'
  rw [htime, hstart] at hlevel
  have hsame : level = level' := Except.ok.inj (hlevel.symm.trans hlevel')
  rw [← hclamped, ← hclamped', hsame]

/-- A step for the volume of one event keeps events in step if one volume leads to one volume. -/
theorem revolume_consistent {event event' : Event} (hstep : event.InStep traits event')
    {f g : Int → Except Fault Int} (hvolumes : ∀ volume, Consistent Eq (f volume) (g volume)) :
    Consistent (Event.InStep traits)
      (do return { event with volume := ← f event.volume })
      (do return { event' with volume := ← g event'.volume }) := by
  have hvolume : Consistent (fun volume volume' => traits.volume → volume = volume')
      (f event.volume) (g event'.volume) := by
    intro volume volume' hok hok' hshared
    rw [hstep.volume hshared] at hok
    exact hvolumes event'.volume volume volume' hok hok'
  refine hvolume.bind fun volume volume' hsame => ?_
  exact .pure (hstep.withVolume hsame)

theorem accent_consistent (amount : Ratio)
    (hevents : List.Forall₂ (Event.InStep traits) events events') :
    Consistent (List.Forall₂ (Event.InStep traits)) (accent amount events)
      (accent amount events') := by
  refine .mapM (fun event event' hstep => ?_) hevents
  exact revolume_consistent hstep fun volume => .refl (accentedVolume amount volume)

theorem articulate_consistent (amount : Ratio)
    (hevents : List.Forall₂ (Event.InStep traits) events events') :
    Consistent (List.Forall₂ (Event.InStep traits)) (articulate amount events)
      (articulate amount events') := by
  refine .mapM (fun event event' hstep => ?_) hevents
  rw [hstep.duration]
  exact .bind_same fun duration => .pure (hstep.withDuration duration)

/-- A ramp starts at the time of the first events, which has one value. -/
theorem ramp_consistent (falling : Bool) (amount elapsed : Ratio)
    (hevents : List.Forall₂ (Event.InStep traits) events events') :
    Consistent (List.Forall₂ (Event.InStep traits)) (ramp falling amount elapsed events)
      (ramp falling amount elapsed events') := by
  cases hevents with
  | nil => exact .pure .nil
  | cons hfirst hrest =>
    rw [ramp_cons, ramp_cons]
    refine .bind_same fun still => ?_
    cases still with
    | true => exact .pure (.cons hfirst hrest)
    | false =>
      refine .bind_same fun rate => .mapM (fun event event' hstep => ?_) (.cons hfirst hrest)
      exact revolume_consistent hstep
        (rampVolume_consistent hfirst.time.value hstep.time.value rate)

/-- A single attribute keeps events in step. -/
theorem applyPhraseAttribute_consistent (player : Player) (elapsed : Ratio) (attr : PhraseAttribute)
    (hevents : List.Forall₂ (Event.InStep traits) events events') :
    Consistent (List.Forall₂ (Event.InStep traits))
      (player.applyPhraseAttribute elapsed events attr)
      (player.applyPhraseAttribute elapsed events' attr) := by
  obtain hsame | ⟨amount, haccent⟩ | ⟨amount, harticulate⟩ | ⟨falling, amount, hramp⟩ :=
    applyPhraseAttribute_cases player attr
  · rw [hsame, hsame]
    exact .pure hevents
  · rw [haccent, haccent]
    exact accent_consistent amount hevents
  · rw [harticulate, harticulate]
    exact articulate_consistent amount hevents
  · rw [hramp, hramp]
    exact ramp_consistent falling amount elapsed hevents

/-- A phrase keeps events in step. -/
theorem applyPhraseAttributes_consistent (player : Player) (elapsed : Ratio)
    (attributes : List PhraseAttribute)
    (hevents : List.Forall₂ (Event.InStep traits) events events') :
    Consistent (List.Forall₂ (Event.InStep traits))
      (player.applyPhraseAttributes elapsed events attributes)
      (player.applyPhraseAttributes elapsed events' attributes) := by
  induction attributes with
  | nil => exact .pure hevents
  | cons attr attributes ih =>
    exact ih.bind fun between between' hbetween =>
      applyPhraseAttribute_consistent player elapsed attr hbetween

end Player

end Polyphony
