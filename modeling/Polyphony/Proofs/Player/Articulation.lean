import Mathlib.Algebra.BigOperators.Group.List.Basic
import Polyphony.Proofs.Music.Attribute
import Polyphony.Proofs.Performance.Derivation
import Polyphony.Proofs.Player.Overflow
import Polyphony.Proofs.Player.Spelling
import Polyphony.Proofs.Player.Unnoticed

/-!
# Articulations apart from dynamics

Dynamics do not look at durations, and articulations look at nothing else. So the attributes of a
phrase come apart: the dynamics are applied in their order, and every duration is scaled once, by
the product of all articulations.
-/

namespace Polyphony

namespace PhraseAttribute

/-- The dynamics among the attributes, in their order. -/
def dynamics (attributes : List PhraseAttribute) : List PhraseAttribute :=
  attributes.filter fun attr => decide attr.Dynamic

/-- The amounts of the articulations among the attributes, in their order. -/
def articulations (attributes : List PhraseAttribute) : List Ratio :=
  (attributes.filter fun attr => !decide attr.Dynamic).map amount

/-- The product of the values of amounts. -/
def product (amounts : List Ratio) : Rat := (amounts.map Ratio.value).prod

theorem product_perm {amounts amounts' : List Ratio} (hperm : amounts.Perm amounts') :
    product amounts = product amounts' :=
  (hperm.map Ratio.value).prod_eq

end PhraseAttribute

open PhraseAttribute

/-- The event with its duration scaled by the product of amounts. Without amounts the duration is
not calculated anew. -/
def Event.stretched (amounts : List Ratio) (event : Event) : Event :=
  match amounts with
  | [] => event
  | _ :: _ => { event with duration := .ofValue (event.duration.value * product amounts) }

namespace Event

variable {event event' : Event} {amounts amounts' : List Ratio}

theorem stretched_eq (amounts : List Ratio) (event : Event) :
    event.stretched amounts = { event with duration := (event.stretched amounts).duration } := by
  cases amounts <;> rfl

@[simp] theorem value_duration_stretched (amounts : List Ratio) (event : Event) :
    (event.stretched amounts).duration.value = event.duration.value * product amounts := by
  cases amounts with
  | nil => simp [stretched, product]
  | cons amount amounts => simp [stretched]

theorem stretched_defined (amounts : List Ratio) (hdefined : event.duration.Defined) :
    (event.stretched amounts).duration.Defined := by
  cases amounts with
  | nil => exact hdefined
  | cons amount amounts => exact Ratio.ofValue_defined _

/-- The order of the amounts does not count. -/
theorem stretched_perm (hperm : amounts.Perm amounts') (event : Event) :
    event.stretched amounts = event.stretched amounts' := by
  cases amounts with
  | nil => rw [hperm.nil_eq]
  | cons amount amounts =>
    cases amounts' with
    | nil => exact absurd hperm.symm.nil_eq (List.cons_ne_nil amount amounts).symm
    | cons amount' amounts' => simp only [stretched, product_perm hperm]

/-- Dynamics do not look at durations. -/
theorem stretched_keepsLevels (amounts : List Ratio) : KeepsLevels (stretched amounts) := by
  cases amounts with
  | nil => exact ⟨fun _ => rfl, fun _ => rfl, fun _ _ => rfl⟩
  | cons amount amounts => exact ⟨fun _ => rfl, fun _ => rfl, fun _ _ => rfl⟩

/-- Amounts of one product take events that are the same to events that are the same. -/
theorem Same.stretched {R : List Binary64 → List Binary64 → Prop} (hsame : event.Same R event')
    (hproduct : product amounts = product amounts') :
    (event.stretched amounts).Same R (event'.stretched amounts') := by
  rw [stretched_eq amounts event, stretched_eq amounts' event']
  refine hsame.withDuration
    ⟨stretched_defined _ hsame.duration.left, stretched_defined _ hsame.duration.right, ?_⟩
  rw [value_duration_stretched, value_duration_stretched, hsame.duration.value, hproduct]

end Event

namespace Player

variable {player : Player} {elapsed amount : Ratio} {events shaped : List Event}
  {attr : PhraseAttribute} {attributes attributes' : List PhraseAttribute} {amounts : List Ratio}

/-- Whatever is not among the dynamics scales durations, by its amount. -/
theorem applyPhraseAttribute_articulation (player : Player) (elapsed : Ratio)
    (events : List Event) (hattr : ¬ attr.Dynamic) :
    player.applyPhraseAttribute elapsed events attr = articulate attr.amount events := by
  cases attr with
  | accent amount | crescendo amount | diminuendo amount => exact absurd trivial hattr
  | staccato amount | legato amount => rfl

/-- Durations may be scaled before or after dynamics are applied. -/
theorem applyPhraseAttribute_stretched (player : Player) (elapsed : Ratio) (events : List Event)
    (hattr : attr.Dynamic) (amounts : List Ratio) :
    player.applyPhraseAttribute elapsed (events.map (Event.stretched amounts)) attr =
      List.map (Event.stretched amounts) <$> player.applyPhraseAttribute elapsed events attr := by
  have hkeeps := Event.stretched_keepsLevels amounts
  cases attr with
  | accent amount => exact accent_map hkeeps amount events
  | crescendo amount =>
    obtain ⟨_ | _, name⟩ := player
    · rfl
    · exact ramp_map hkeeps false amount elapsed events
  | diminuendo amount =>
    obtain ⟨_ | _, name⟩ := player
    · rfl
    · exact ramp_map hkeeps true amount elapsed events
  | staccato amount | legato amount => exact hattr.elim

/-- One more articulation is one more factor. -/
theorem articulate_stretched (hamount : amount.Defined)
    (hevents : ∀ event ∈ events, event.duration.Defined) (amounts : List Ratio) :
    articulate amount (events.map (Event.stretched amounts)) =
      .ok (events.map (Event.stretched (amount :: amounts))) := by
  rw [articulate, mapM_eq_ok_iff, List.forall₂_map_left_iff, List.forall₂_map_right_iff,
    List.forall₂_same]
  intro event hevent
  have hduration := Event.stretched_defined amounts (hevents event hevent)
  have hscaled : (event.stretched amounts).duration.value * amount.value =
      event.duration.value * product (amount :: amounts) := by
    rw [Event.value_duration_stretched, mul_assoc, mul_comm (product amounts), product, product,
      List.map_cons, List.prod_cons]
  rw [hduration.mul_eq hamount, hscaled, Event.stretched_eq]
  rfl

/-- A phrase leaves durations that have values so. -/
theorem forall_duration_defined (hevents : ∀ event ∈ events, event.duration.Defined)
    (hshaped : player.applyPhraseAttributes elapsed events attributes = .ok shaped) :
    ∀ event ∈ shaped, event.duration.Defined := by
  refine forall_mem_of_applyPhraseAttributes (fun _ _ hdefined => hdefined) ?_ hshaped hevents
  intro event amount duration _ hmul
  obtain ⟨_, _, rfl⟩ := Ratio.mul_eq_ok_iff.mp hmul
  exact Ratio.ofValue_defined _

/-- Attributes shape events as their dynamics do, and scale durations by the product of the
articulations. -/
theorem applyPhraseAttributes_eq_stretched (player : Player) (elapsed : Ratio)
    (hevents : ∀ event ∈ events, event.duration.Defined)
    (hattributes : ∀ attr ∈ attributes, attr.amount.Defined) :
    player.applyPhraseAttributes elapsed events attributes =
      List.map (Event.stretched (articulations attributes)) <$>
        player.applyPhraseAttributes elapsed events (dynamics attributes) := by
  induction attributes with
  | nil => exact congrArg Except.ok (List.map_id events).symm
  | cons attr attributes ih =>
    obtain ⟨hattr, hrest⟩ := List.forall_mem_cons.mp hattributes
    rw [applyPhraseAttributes, ih hrest]
    by_cases hdynamic : attr.Dynamic
    · have hdynamics : dynamics (attr :: attributes) = attr :: dynamics attributes :=
        List.filter_cons_of_pos (decide_eq_true hdynamic)
      have harticulations : articulations (attr :: attributes) = articulations attributes := by
        simp [articulations, hdynamic]
      rw [hdynamics, harticulations, applyPhraseAttributes]
      cases player.applyPhraseAttributes elapsed events (dynamics attributes) with
      | error fault => rfl
      | ok between => exact applyPhraseAttribute_stretched player elapsed between hdynamic _
    · have hdynamics : dynamics (attr :: attributes) = dynamics attributes :=
        List.filter_cons_of_neg (by simpa using hdynamic)
      have harticulations :
          articulations (attr :: attributes) = attr.amount :: articulations attributes := by
        simp [articulations, hdynamic]
      rw [hdynamics, harticulations]
      cases hbetween : player.applyPhraseAttributes elapsed events (dynamics attributes) with
      | error fault => rfl
      | ok between =>
        have hdefined := forall_duration_defined hevents hbetween
        exact (applyPhraseAttribute_articulation player elapsed _ hdynamic).trans
          (articulate_stretched hattr hdefined _)

/-- The attributes of a phrase have a normal form. They shape events as their dynamics alone do, in
their order, followed by a scaling of every duration by the product of all articulations, and they
fail just where the dynamics do. Nothing but volumes and durations changes. So an articulation may
change places with any attribute, whether it is called a staccato or a legato does not count, and
attributes with the same dynamics and one product of articulations make the same performance. -/
theorem attributes_normal_form (player : Player) (helapsed : elapsed.Defined)
    (hevents : ∀ event ∈ events, event.Defined ∧ event.length.Defined)
    (hattributes : ∀ attr ∈ attributes, attr.amount.Defined) :
    player.applyPhraseAttributes elapsed events attributes =
        List.map (Event.stretched (articulations attributes)) <$>
          player.applyPhraseAttributes elapsed events (dynamics attributes) ∧
      (∀ shaped, player.applyPhraseAttributes elapsed events attributes = .ok shaped →
        shaped.map Event.core = events.map Event.core) ∧
      ∀ attributes', (∀ attr ∈ attributes', attr.amount.Defined) →
        (dynamics attributes = dynamics attributes' →
          (articulations attributes).Perm (articulations attributes') →
          player.applyPhraseAttributes elapsed events attributes =
            player.applyPhraseAttributes elapsed events attributes') ∧
        (List.Forall₂ PhraseAttribute.Same (dynamics attributes) (dynamics attributes') →
          product (articulations attributes) = product (articulations attributes') →
          Matched (List.Forall₂ (Event.Same Eq))
            (player.applyPhraseAttributes elapsed events attributes)
            (player.applyPhraseAttributes elapsed events attributes')) := by
  have hdurations : ∀ event ∈ events, event.duration.Defined := by
    intro event hevent
    exact (hevents event hevent).1.duration
  have hnormal := applyPhraseAttributes_eq_stretched player elapsed hdurations hattributes
  refine ⟨hnormal, fun shaped hshaped => map_core_of_applyPhraseAttributes hshaped, ?_⟩
  intro attributes' hattributes'
  have hnormal' := applyPhraseAttributes_eq_stretched player elapsed hdurations hattributes'
  constructor
  · intro hdynamics hperm
    rw [hnormal, hnormal', hdynamics, funext (Event.stretched_perm hperm)]
  · intro hdynamics hproduct
    have hsame : List.Forall₂ (Event.Same Eq) events events := by
      refine List.forall₂_same.mpr fun event hevent => ?_
      obtain ⟨hdefined, hlength⟩ := hevents event hevent
      exact ⟨hdefined.time.same, hlength.same, hdefined.duration.same, rfl, rfl⟩
    rw [hnormal, hnormal']
    refine (applyPhraseAttributes_matched player hdynamics helapsed.same hsame).map ?_
    intro shaped shaped' hshaped
    rw [List.forall₂_map_left_iff, List.forall₂_map_right_iff]
    exact hshaped.imp fun _ _ hevent => hevent.stretched hproduct

open Performance in
/-- Of the events of the specimen, a fancy player makes the same with a staccato to a half and a
legato to three times the durations as with one staccato to one and a half times, around a crescendo
and an accent. -/
theorem specimen_attributes_normal_form :
    (specimenOutcome.elapsed.Defined ∧
      ∀ event ∈ specimenOutcome.events, event.Defined ∧ event.length.Defined) ∧
    (Player.ornate.applyPhraseAttributes specimenOutcome.elapsed specimenOutcome.events
        [.staccato ⟨1, 2⟩, .accent ⟨1, 2⟩, .legato ⟨3, 1⟩, .crescendo .one] =
      List.map (Event.stretched [⟨1, 2⟩, ⟨3, 1⟩]) <$>
        Player.ornate.applyPhraseAttributes specimenOutcome.elapsed specimenOutcome.events
          [.accent ⟨1, 2⟩, .crescendo .one]) ∧
    Matched (List.Forall₂ (Event.Same Eq))
      (Player.ornate.applyPhraseAttributes specimenOutcome.elapsed specimenOutcome.events
        [.staccato ⟨1, 2⟩, .accent ⟨1, 2⟩, .legato ⟨3, 1⟩, .crescendo .one])
      (Player.ornate.applyPhraseAttributes specimenOutcome.elapsed specimenOutcome.events
        [.accent ⟨1, 2⟩, .crescendo .one, .staccato ⟨3, 2⟩]) := by
  have helapsed : specimenOutcome.elapsed.Defined := by decide
  have hevents : ∀ event ∈ specimenOutcome.events, event.Defined ∧ event.length.Defined := by
    have hdefined : ∀ event ∈ specimenOutcome.events,
        event.time.Defined ∧ event.duration.Defined ∧ event.length.Defined := by decide
    intro event hevent
    obtain ⟨htime, hduration, hlength⟩ := hdefined event hevent
    exact ⟨⟨htime, hduration⟩, hlength⟩
  have hattributes : ∀ attr ∈ [PhraseAttribute.staccato ⟨1, 2⟩, .accent ⟨1, 2⟩, .legato ⟨3, 1⟩,
      .crescendo .one], attr.amount.Defined := by decide
  obtain ⟨hnormal, _, hothers⟩ :=
    attributes_normal_form Player.ornate helapsed hevents hattributes
  have hhalf : Ratio.Defined ⟨1, 2⟩ := by decide
  have hone : Ratio.one.Defined := by decide
  have halike := (hothers [.accent ⟨1, 2⟩, .crescendo .one, .staccato ⟨3, 2⟩] (by decide)).2
    (.cons (.accent hhalf.same) (.cons (.crescendo hone.same) .nil)) (by decide +kernel)
  exact ⟨⟨helapsed, hevents⟩, hnormal, halike⟩

end Player

end Polyphony
