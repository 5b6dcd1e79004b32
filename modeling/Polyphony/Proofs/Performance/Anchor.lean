import Polyphony.Music.Build
import Polyphony.Proofs.Performance.Composition
import Polyphony.Proofs.Performance.Ramp

/-!
# Where a ramp starts

Across a phrase, a fancy player draws a ramp that starts at the first event and changes volumes by
the full amount in the time that the whole phrase takes. If the first event is at the start of the
phrase, the ramp goes from the volumes themselves at the start of the phrase to the full change at
its end. After a rest, it starts as much later as the rest takes, and the phrase ends before the
ramp does.
-/

namespace Polyphony

namespace Outcome

variable {outcome : Outcome}

/-- The time of the first event. -/
def onset (outcome : Outcome) : Rat :=
  match outcome.events with
  | [] => 0
  | first :: _ => first.time.value

/-- The first event, if there is one, is at the start. -/
def Prompt (outcome : Outcome) (start : Rat) : Prop :=
  outcome.events ≠ [] → outcome.onset = start

/-- The events of an outcome are on a ramp from a start on. It changes volumes by a share of their
level in the time that the outcome took. -/
def RampedFrom (outcome : Outcome) (start rise : Rat) (shaped : List Event) : Prop :=
  List.Forall₂
    (fun event => event.Ramped (1 + rise * (event.time.value - start) / outcome.elapsed.value))
    outcome.events shaped

/-- The share of the time that an event comes after is counted from the first event. -/
theorem rampedFrom_onset_iff {rise : Rat} {shaped : List Event} :
    outcome.RampedFrom outcome.onset rise shaped ↔
      List.Forall₂ (fun event => event.Ramped (1 + outcome.share event * rise)) outcome.events
        shaped := by
  obtain ⟨events, elapsed⟩ := outcome
  cases events with
  | nil => simp only [RampedFrom, List.forall₂_nil_left_iff]
  | cons first rest =>
    have hfactor (event : Event) : rise * (event.time.value - first.time.value) / elapsed.value =
        share ⟨first :: rest, elapsed⟩ event * rise := by
      rw [mul_div_assoc, mul_comm]
      rfl
    simp only [RampedFrom, onset, hfactor]

/-- Without a rest before the first event, a ramp from there on is one from the start on. -/
theorem Prompt.rampedFrom_onset_iff {start rise : Rat} {shaped : List Event}
    (hprompt : outcome.Prompt start) :
    outcome.RampedFrom outcome.onset rise shaped ↔ outcome.RampedFrom start rise shaped := by
  by_cases hnone : outcome.events = []
  · rw [RampedFrom, RampedFrom, hnone, List.forall₂_nil_left_iff, List.forall₂_nil_left_iff]
  · rw [hprompt hnone]

end Outcome

/-- What a phrase under one attribute makes of a body with an outcome: volumes change by a share of
their level, drawn from the first event on. -/
structure Outcome.Swells (outcome : Outcome) (players : Roster) (context : Context)
    (body : Music Payload) (attr : PhraseAttribute) (rise : Rat) : Prop where
  /-- The phrase performs with the events on a ramp from the first event on, if their levels can be
  rounded. -/
  performs : ∀ swollen,
    ((Music.phrase [attr] body).perform (some players) context).result = .ok swollen ↔
      swollen.elapsed = outcome.elapsed ∧ (outcome.events ≠ [] → attr.amount.Defined) ∧
        outcome.RampedFrom outcome.onset rise swollen.events
  /-- This is the ramp across the whole phrase if the first event is at its start. -/
  whole : outcome.Prompt context.time.value → ∀ swollen,
    ((Music.phrase [attr] body).perform (some players) context).result = .ok swollen →
      outcome.RampedFrom context.time.value rise swollen.events

section Ramp

variable {players : Roster} {context : Context} {body : Music Payload} {outcome : Outcome}

/-- A single attribute that the player of the context takes for a ramp draws one. -/
theorem Performs.swells (falling : Bool) (hbody : Performs (some players) context body outcome)
    (htime : context.time.Defined) (hmoving : outcome.elapsed.value ≠ 0) {attr : PhraseAttribute}
    (hattr : context.player.applyPhraseAttribute outcome.elapsed outcome.events attr =
      Player.ramp falling attr.amount outcome.elapsed outcome.events) :
    outcome.Swells players context body attr (Player.rise falling attr.amount) := by
  have hperforms (swollen : Outcome) :
      ((Music.phrase [attr] body).perform (some players) context).result = .ok swollen ↔
        swollen.elapsed = outcome.elapsed ∧ (outcome.events ≠ [] → attr.amount.Defined) ∧
          outcome.RampedFrom outcome.onset (Player.rise falling attr.amount) swollen.events := by
    rw [Music.perform_result_iff, Music.phrase, Performs.phrase_iff,
      Outcome.rampedFrom_onset_iff, ← Outcome.ramp_eq_ok_iff (hbody.defined_of_time htime) hmoving,
      ← hattr]
    constructor
    · rintro ⟨inner, shaped, hinner, hshaped, rfl⟩
      obtain rfl := hinner.unique hbody
      exact ⟨rfl, hshaped⟩
    · rintro ⟨helapsed, hshaped⟩
      exact ⟨outcome, swollen.events, hbody, hshaped, by rw [← helapsed]⟩
  refine ⟨hperforms, fun hprompt swollen hok => ?_⟩
  obtain ⟨_, _, hramped⟩ := (hperforms swollen).mp hok
  exact hprompt.rampedFrom_onset_iff.mp hramped

/-- A fancy player draws the ramp of a crescendo or diminuendo from the first event of the phrase
on, over the time that the whole phrase takes: an event comes to its own volume times a factor that
is one at the first event. The ramp goes from the start of the phrase to its end only if the first
event is at the start. -/
theorem ramps_anchored_at_first_event (htime : context.time.Defined)
    (hfancy : context.player.style = .fancy)
    (hok : (body.perform (some players) context).result = .ok outcome)
    (hmoving : outcome.elapsed.value ≠ 0) (amount : Ratio) :
    outcome.Swells players context body (.crescendo amount) amount.value ∧
      outcome.Swells players context body (.diminuendo amount) (-amount.value) := by
  have hbody := Music.perform_result_iff.mp hok
  constructor
  · refine hbody.swells false htime hmoving ?_
    simp only [Player.applyPhraseAttribute, hfancy]
    rfl
  · refine hbody.swells true htime hmoving ?_
    simp only [Player.applyPhraseAttribute, hfancy]
    rfl

end Ramp

/-- The standard context with a fancy player. -/
def ornateContext : Context := Context.standard.withPlayer .ornate

/-- A quarter note as it is performed in the standard context. -/
def quarterAt (time : Ratio) (volume : Int) : Event where
  time := time
  pitch := 60
  volume := volume
  length := ⟨1, 4⟩
  duration := ⟨1, 8⟩
  channel := .first
  on := true
  params := []

/-- A note that is struck twice. -/
def struckTwice : Music Payload :=
  .seq (.prim (.note ⟨1, 4⟩ (.loud 60 100))) (.prim (.note ⟨1, 4⟩ (.loud 60 100)))

/-- A crescendo to twice the volumes takes the second of two notes, at half of the time, to one and
a half of its volume. -/
theorem struckTwice_anchored_at_first_event :
    ((struckTwice.perform (some .standard) ornateContext).result =
        .ok ⟨[quarterAt .zero 100, quarterAt ⟨1, 4⟩ 100], ⟨1, 2⟩⟩ ∧
      ornateContext.time.Defined ∧ ornateContext.player.style = .fancy) ∧
    ((Music.phrase [.crescendo .one] struckTwice).perform (some .standard) ornateContext).result =
      .ok ⟨[quarterAt .zero 100, quarterAt ⟨1, 4⟩ 150], ⟨1, 2⟩⟩ := by
  have hperforms : (struckTwice.perform (some .standard) ornateContext).result =
      .ok ⟨[quarterAt .zero 100, quarterAt ⟨1, 4⟩ 100], ⟨1, 2⟩⟩ := by
    rw [Music.perform_eq_outcome]
    decide +kernel
  have htime : ornateContext.time.Defined := by decide +kernel
  have hfancy : ornateContext.player.style = .fancy := rfl
  obtain ⟨hcrescendo, _⟩ :=
    ramps_anchored_at_first_event htime hfancy hperforms (by decide +kernel) .one
  refine ⟨⟨hperforms, htime, hfancy⟩, (hcrescendo.performs _).mpr ⟨rfl, fun _ => by decide, ?_⟩⟩
  exact .cons ⟨rfl, 100, by decide +kernel, rfl⟩ (.cons ⟨rfl, 150, by decide +kernel, rfl⟩ .nil)

/-- A note after a rest. -/
def lateEntry : Music Payload :=
  .seq (.prim (.rest ⟨1, 4⟩)) (.prim (.note ⟨1, 4⟩ (.loud 60 100)))

/-- After a rest, a crescendo is not a ramp from the start of the phrase on. The note at half of the
time keeps its volume. -/
theorem lateEntry_not_ramped_from_start :
    (ornateContext.Forward ∧ ornateContext.player.style = .fancy ∧
      lateEntry.EachLength Ratio.Forward ∧
      (lateEntry.perform (some .standard) ornateContext).result =
        .ok ⟨[quarterAt ⟨1, 4⟩ 100], ⟨1, 2⟩⟩) ∧
    ((Music.phrase [.crescendo .one] lateEntry).perform (some .standard) ornateContext).result =
      .ok ⟨[quarterAt ⟨1, 4⟩ 100], ⟨1, 2⟩⟩ ∧
    ¬ Outcome.RampedFrom ⟨[quarterAt ⟨1, 4⟩ 100], ⟨1, 2⟩⟩ ornateContext.time.value Ratio.one.value
      [quarterAt ⟨1, 4⟩ 100] := by
  have hcontext : ornateContext.Forward :=
    ⟨⟨by decide, by decide, by decide⟩, by decide +kernel⟩
  have hlengths : lateEntry.EachLength Ratio.Forward := by decide +kernel
  have hbody : (lateEntry.perform (some .standard) ornateContext).result =
      .ok ⟨[quarterAt ⟨1, 4⟩ 100], ⟨1, 2⟩⟩ := by
    rw [Music.perform_eq_outcome]
    decide +kernel
  have hphrase : ((Music.phrase [.crescendo .one] lateEntry).perform (some .standard)
      ornateContext).result = .ok ⟨[quarterAt ⟨1, 4⟩ 100], ⟨1, 2⟩⟩ := by
    rw [Music.perform_eq_outcome]
    decide +kernel
  refine ⟨⟨hcontext, rfl, hlengths, hbody⟩, hphrase, fun hramped => ?_⟩
  obtain ⟨_, volume, hrounded, hvolume⟩ := (List.forall₂_cons.mp hramped).1
  have hlevel : (1 + Ratio.one.value *
      ((quarterAt ⟨1, 4⟩ 100).time.value - ornateContext.time.value) / Ratio.value ⟨1, 2⟩) *
      (quarterAt ⟨1, 4⟩ 100).volume = 150 := by decide +kernel
  have hpromised : Velocity.rounded 150 = .ok 150 := by decide +kernel
  rw [hlevel, hpromised] at hrounded
  obtain rfl := Except.ok.inj hrounded
  exact absurd hvolume (by decide)

end Polyphony
