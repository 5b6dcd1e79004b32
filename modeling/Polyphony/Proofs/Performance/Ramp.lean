import Polyphony.Proofs.Music.Attribute
import Polyphony.Proofs.Performance.Timing
import Polyphony.Proofs.Player.Level

/-!
# Bounds of a ramp

Of the time that a performance takes, a share has passed from its first event to any of its events:
none at the least and all of it at the most, since the events come in the order of time and within
the span of the performance. On a ramp across the performance the volume of an event changes by this
share of the amount. So it stays between the levels at both ends, and events of one volume rise or
fall along the list.
-/

namespace Polyphony

namespace Outcome

variable {outcome : Outcome} {start : Rat}

/-- The share of the elapsed time that has passed from the first event to another. -/
def share (outcome : Outcome) (event : Event) : Rat :=
  match outcome.events with
  | [] => 0
  | first :: _ => (event.time.value - first.time.value) / outcome.elapsed.value

/-- No event is before the first one, and none is later than the elapsed time after it. -/
theorem Timely.share_mem (htimely : outcome.Timely start) (hmoving : outcome.elapsed.value ≠ 0) :
    ∀ event ∈ outcome.events, 0 ≤ outcome.share event ∧ outcome.share event ≤ 1 := by
  have hpos : 0 < outcome.elapsed.value := lt_of_le_of_ne htimely.elapsed_nonneg hmoving.symm
  obtain ⟨events, elapsed⟩ := outcome
  intro event hevent
  cases events with
  | nil => exact absurd hevent List.not_mem_nil
  | cons first rest =>
    have hfirst := htimely.start_le first List.mem_cons_self
    have hend := htimely.end_le event hevent
    have hlength := htimely.lengths_nonneg event hevent
    have hordered : first.time.value ≤ event.time.value := by
      rcases List.mem_cons.mp hevent with rfl | hrest
      · exact le_rfl
      · exact (List.pairwise_cons.mp htimely.ordered).1 event hrest
    change 0 ≤ (event.time.value - first.time.value) / elapsed.value ∧
      (event.time.value - first.time.value) / elapsed.value ≤ 1
    constructor
    · exact div_nonneg (sub_nonneg.mpr hordered) hpos.le
    · rw [div_le_one hpos]
      linarith

/-- Later events come after a larger share of the time. -/
theorem Timely.share_ordered (htimely : outcome.Timely start) :
    outcome.events.Pairwise fun a b => outcome.share a ≤ outcome.share b := by
  have helapsed := htimely.elapsed_nonneg
  refine htimely.ordered.imp fun {a b} hle => ?_
  unfold share
  split
  · exact le_rfl
  · exact div_le_div_of_nonneg_right (sub_le_sub_right hle _) helapsed

/-- A ramp across a performance that takes time puts every event on the level of its share. -/
theorem ramp_eq_ok_iff (hdefined : outcome.Defined) (hmoving : outcome.elapsed.value ≠ 0)
    {falling : Bool} {amount : Ratio} {shaped : List Event} :
    Player.ramp falling amount outcome.elapsed outcome.events = .ok shaped ↔
      (outcome.events ≠ [] → amount.Defined) ∧
        List.Forall₂
          (fun event => event.Ramped (1 + outcome.share event * Player.rise falling amount))
          outcome.events shaped := by
  obtain ⟨events, elapsed⟩ := outcome
  cases events with
  | nil =>
    have hempty : Player.ramp falling amount elapsed [] = .ok [] := rfl
    rw [hempty, Except.ok.injEq, List.forall₂_nil_left_iff, eq_comm]
    exact (and_iff_right fun hsome => absurd rfl hsome).symm
  | cons first rest =>
    have hfirst : first.time.Defined := hdefined.times first List.mem_cons_self
    have hfactor (event : Event) :
        1 + (event.time.value - first.time.value) * Player.slope falling amount elapsed =
          1 + share ⟨first :: rest, elapsed⟩ event * Player.rise falling amount := by
      rw [Player.slope_eq_rise_div, mul_div_assoc', ← div_mul_eq_mul_div]
      rfl
    simp only [Player.ramp_cons_eq_ok_iff, mapM_eq_ok_iff, Player.onRamp_eq_ok_iff, hfirst,
      hfactor, true_and, List.forall₂_and_left]
    constructor
    · rintro ⟨_, ⟨hstill, _⟩ | ⟨_, hamount, _, hramped⟩⟩
      · exact absurd hstill hmoving
      · exact ⟨fun _ => hamount, hramped⟩
    · rintro ⟨hamount, hramped⟩
      have hsome : first :: rest ≠ [] := List.cons_ne_nil first rest
      exact ⟨hdefined.elapsed, .inr ⟨hmoving, hamount hsome, hdefined.times, hramped⟩⟩

/-- What an attribute makes of the events stays between two multiples of their volumes, on the way
from the volumes themselves to the multiples that are higher by the rise. -/
structure Within (outcome : Outcome) (low high rise : Rat) (player : Player)
    (attr : PhraseAttribute) : Prop where
  /-- Wherever there are new events, their volumes are between the multiples of the old ones. -/
  between : ∀ shaped,
    player.applyPhraseAttribute outcome.elapsed outcome.events attr = .ok shaped →
    List.Forall₂ (fun event => event.Between low (1 + outcome.share event * rise) high)
      outcome.events shaped
  /-- There are new events if the amount has a value and no volume is negative or too large. -/
  returns : attr.amount.Defined →
    (∀ event ∈ outcome.events, 0 ≤ event.volume ∧
      ∃ highest, Velocity.rounded (high * event.volume) = .ok highest) →
    ∃ shaped, player.applyPhraseAttribute outcome.elapsed outcome.events attr = .ok shaped

/-- Events that have one volume, which is not negative, come to be ordered by their volumes. -/
def Ordered (outcome : Outcome) (order : Int → Int → Prop) (player : Player)
    (attr : PhraseAttribute) : Prop :=
  ∀ shaped, player.applyPhraseAttribute outcome.elapsed outcome.events attr = .ok shaped →
    ∀ volume, 0 ≤ volume → (∀ event ∈ outcome.events, event.volume = volume) →
      shaped.Pairwise fun a b => order a.volume b.volume

section Ramp

variable {player : Player} {attr : PhraseAttribute} {falling : Bool}

/-- A ramp stays between two multiples if all factors on the way do. -/
theorem within_of_ramp (htimely : outcome.Timely start) (hdefined : outcome.Defined)
    (hmoving : outcome.elapsed.value ≠ 0) {low high : Rat} (hnonneg : 0 ≤ low)
    (hattr : player.applyPhraseAttribute outcome.elapsed outcome.events attr =
      Player.ramp falling attr.amount outcome.elapsed outcome.events)
    (hfactor : ∀ share : Rat, 0 ≤ share → share ≤ 1 →
      low ≤ 1 + share * Player.rise falling attr.amount ∧
        1 + share * Player.rise falling attr.amount ≤ high) :
    outcome.Within low high (Player.rise falling attr.amount) player attr := by
  have hfactors : ∀ event ∈ outcome.events,
      low ≤ 1 + outcome.share event * Player.rise falling attr.amount ∧
        1 + outcome.share event * Player.rise falling attr.amount ≤ high := by
    intro event hevent
    obtain ⟨hfirst, hlast⟩ := htimely.share_mem hmoving event hevent
    exact hfactor (outcome.share event) hfirst hlast
  constructor
  · intro shaped hshaped
    rw [hattr, ramp_eq_ok_iff hdefined hmoving] at hshaped
    have hboth := (List.forall₂_and_left _ _).mpr ⟨hfactors, hshaped.2⟩
    exact hboth.imp fun _ _ hevent => hevent.2.between hnonneg hevent.1.1 hevent.1.2
  · intro hamount hvolumes
    have hlevels : ∀ event ∈ outcome.events, ∃ shaped,
        event.Ramped (1 + outcome.share event * Player.rise falling attr.amount) shaped := by
      intro event hevent
      obtain ⟨hlow, hhigh⟩ := hfactors event hevent
      obtain ⟨hvolume, highest, hhighest⟩ := hvolumes event hevent
      have hcast : (0 : Rat) ≤ event.volume := Int.cast_nonneg hvolume
      obtain ⟨volume, hrounded⟩ := Velocity.exists_rounded_of_le
        (mul_nonneg (hnonneg.trans hlow) hcast) (mul_le_mul_of_nonneg_right hhigh hcast) hhighest
      exact ⟨{ event with volume := max Velocity.lowest volume }, rfl, volume, hrounded, rfl⟩
    obtain ⟨shaped, hramped⟩ := exists_forall₂_iff.mpr hlevels
    refine ⟨shaped, ?_⟩
    rw [hattr, ramp_eq_ok_iff hdefined hmoving]
    exact ⟨fun _ => hamount, hramped⟩

end Ramp

end Outcome

/-- Crescendos and diminuendos stay within their bounds. Across any performance without negative
lengths that takes time, every event comes after a share of the time between none and all of it. So
a fancy player raises volumes that are not negative by no more than the amount of a crescendo, and
lowers them by no more than that of a diminuendo, up to rounding and without touching the lowest
volume; events of one volume rise along the list in a crescendo and fall in a diminuendo; and
whatever the amounts and volumes are, no new volume is negative. -/
theorem ramps_within_bounds {roster : Option Roster} {context : Context} {piece : Music Payload}
    {outcome : Outcome} (hcontext : context.Forward) (hlengths : piece.EachLength Ratio.Forward)
    (hcontrols : piece.EachControl Control.Checked)
    (hok : (piece.perform roster context).result = .ok outcome)
    (hmoving : outcome.elapsed.value ≠ 0) {player : Player} (hfancy : player.style = .fancy) :
    (∀ event ∈ outcome.events, 0 ≤ outcome.share event ∧ outcome.share event ≤ 1) ∧
    (∀ amount : Ratio, 0 ≤ amount.value →
      outcome.Within 1 (1 + amount.value) amount.value player (.crescendo amount) ∧
      outcome.Ordered (· ≤ ·) player (.crescendo amount)) ∧
    (∀ amount : Ratio, 0 ≤ amount.value →
      (amount.value ≤ 1 →
        outcome.Within (1 - amount.value) 1 (-amount.value) player (.diminuendo amount)) ∧
      outcome.Ordered (· ≥ ·) player (.diminuendo amount)) ∧
    ∀ (attr : PhraseAttribute) (shaped : List Event), attr.Ramp →
      player.applyPhraseAttribute outcome.elapsed outcome.events attr = .ok shaped →
      ∀ event ∈ shaped, 0 ≤ event.volume := by
  have hperforms := Music.perform_result_iff.mp hok
  have hdefined := hperforms.defined hcontext.toDefined
  have htimely := hperforms.timely hcontext hlengths hcontrols
  have hcrescendo (amount : Ratio) :
      player.applyPhraseAttribute outcome.elapsed outcome.events (.crescendo amount) =
        Player.ramp false amount outcome.elapsed outcome.events := by
    simp only [Player.applyPhraseAttribute, hfancy]
  have hdiminuendo (amount : Ratio) :
      player.applyPhraseAttribute outcome.elapsed outcome.events (.diminuendo amount) =
        Player.ramp true amount outcome.elapsed outcome.events := by
    simp only [Player.applyPhraseAttribute, hfancy]
  refine ⟨htimely.share_mem hmoving, ?_, ?_, ?_⟩
  · intro amount hamount
    constructor
    · refine Outcome.within_of_ramp htimely hdefined hmoving zero_le_one (hcrescendo amount) ?_
      intro share hfirst hlast
      change 1 ≤ 1 + share * amount.value ∧ 1 + share * amount.value ≤ 1 + amount.value
      have hlow := mul_nonneg hfirst hamount
      have hhigh := mul_le_of_le_one_left hamount hlast
      constructor <;> linarith
    · intro shaped hshaped volume hnonneg hvolumes
      rw [hcrescendo, Outcome.ramp_eq_ok_iff hdefined hmoving] at hshaped
      refine Event.Ramped.pairwise_le hshaped.2 hvolumes hnonneg ?_
      refine htimely.share_ordered.imp fun {a b} hle => ?_
      exact add_le_add_right (mul_le_mul_of_nonneg_right hle hamount) 1
  · intro amount hamount
    constructor
    · intro hone
      have hnonneg : 0 ≤ 1 - amount.value := sub_nonneg.mpr hone
      refine Outcome.within_of_ramp htimely hdefined hmoving hnonneg (hdiminuendo amount) ?_
      intro share hfirst hlast
      change 1 - amount.value ≤ 1 + share * -amount.value ∧ 1 + share * -amount.value ≤ 1
      have hlow := mul_le_of_le_one_left hamount hlast
      have hhigh := mul_nonneg hfirst hamount
      rw [mul_neg]
      constructor <;> linarith
    · intro shaped hshaped volume hnonneg hvolumes
      rw [hdiminuendo, Outcome.ramp_eq_ok_iff hdefined hmoving] at hshaped
      refine Event.Ramped.pairwise_ge hshaped.2 hvolumes hnonneg ?_
      refine htimely.share_ordered.imp fun {a b} hle => ?_
      exact add_le_add_right (mul_le_mul_of_nonpos_right hle (neg_nonpos.mpr hamount)) 1
  · intro attr shaped hramp hshaped
    cases attr with
    | crescendo amount =>
      rw [hcrescendo, Outcome.ramp_eq_ok_iff hdefined hmoving] at hshaped
      exact Event.Ramped.forall_nonneg hshaped.2
    | diminuendo amount =>
      rw [hdiminuendo, Outcome.ramp_eq_ok_iff hdefined hmoving] at hshaped
      exact Event.Ramped.forall_nonneg hshaped.2
    | accent amount | staccato amount | legato amount => exact hramp.elim

open Performance in
/-- A crescendo to twice the volumes across the specimen: the fancy player leaves the first two
events alone and takes the last one, at three quarters of the time, to seven quarters of its
volume. -/
theorem specimen_ramp_within_bounds :
    (Context.standard.Forward ∧ specimen.EachLength Ratio.Forward ∧
      specimen.EachControl Control.Checked ∧
      (specimen.perform (some .standard) .standard).result = .ok specimenOutcome ∧
      specimenOutcome.elapsed.value ≠ 0 ∧ Player.ornate.style = .fancy) ∧
    (∀ event ∈ specimenOutcome.events,
      0 ≤ specimenOutcome.share event ∧ specimenOutcome.share event ≤ 1) ∧
    ∃ shaped, Player.ornate.applyPhraseAttribute specimenOutcome.elapsed specimenOutcome.events
        (.crescendo .one) = .ok shaped ∧
      shaped.map Event.volume = [63, 127, 105, 140] ∧
      List.Forall₂ (fun event => event.Between 1 (1 + specimenOutcome.share event * Ratio.one.value)
        (1 + Ratio.one.value)) specimenOutcome.events shaped := by
  have hcontext : Context.standard.Forward := ⟨Context.standard_defined, by decide +kernel⟩
  have hlengths : specimen.EachLength Ratio.Forward := by decide +kernel
  have hcontrols : specimen.EachControl Control.Checked := by decide +kernel
  have hmoving : specimenOutcome.elapsed.value ≠ 0 := by decide +kernel
  have hfancy : Player.ornate.style = .fancy := rfl
  obtain ⟨hshare, hcrescendo, _, _⟩ :=
    ramps_within_bounds hcontext hlengths hcontrols perform_specimen hmoving hfancy
  have hshaped : ∃ shaped, Player.ornate.applyPhraseAttribute specimenOutcome.elapsed
      specimenOutcome.events (.crescendo .one) = .ok shaped ∧
        shaped.map Event.volume = [63, 127, 105, 140] := by
    refine ⟨(Player.ornate.applyPhraseAttribute specimenOutcome.elapsed specimenOutcome.events
      (.crescendo .one)).toOption.getD [], ?_⟩
    decide +kernel
  obtain ⟨shaped, hok, hvolumes⟩ := hshaped
  have hone : 0 ≤ Ratio.one.value := by decide +kernel
  have hbetween := (hcrescendo .one hone).1.between shaped hok
  exact ⟨⟨hcontext, hlengths, hcontrols, perform_specimen, hmoving, hfancy⟩, hshare, shaped, hok,
    hvolumes, hbetween⟩

end Polyphony
