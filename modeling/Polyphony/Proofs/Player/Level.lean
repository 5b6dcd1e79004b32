import Mathlib.Tactic.Linarith
import Mathlib.Tactic.Ring
import Polyphony.Proofs.Binary64.Nearest
import Polyphony.Proofs.Player.Retiming

/-!
# Levels of a ramp

An event on a ramp has a level: its volume times a factor that changes with the time. The new volume
is the level, rounded through the nearest double, and no less than the lowest volume. Rounding keeps
the order of levels, so the volume lies between the volumes of any two levels that enclose its own.
-/

namespace Polyphony

namespace Velocity

/-- The integer nearest to the double nearest to a level. -/
def rounded (level : Rat) : Except Fault Int := do
  return (← (Ratio.ofValue level).toBinary64).nearestInteger

variable {low level high : Rat} {volume volume' : Int}

theorem rounded_eq_ok_iff : rounded level = .ok volume ↔
    ∃ double, (Ratio.ofValue level).toBinary64 = .ok double ∧ double.nearestInteger = volume := by
  simp only [rounded, bind_eq_ok_iff, pure_eq_ok_iff]

theorem rounded_zero : rounded 0 = .ok 0 := by decide +kernel

/-- Rounding keeps the order of levels. -/
theorem rounded_mono (hle : low ≤ high) (hlow : rounded low = .ok volume)
    (hhigh : rounded high = .ok volume') : volume ≤ volume' := by
  obtain ⟨double, hdouble, rfl⟩ := rounded_eq_ok_iff.mp hlow
  obtain ⟨double', hdouble', rfl⟩ := rounded_eq_ok_iff.mp hhigh
  exact Binary64.nearestInteger_mono (Ratio.place_mono_of_toBinary64 hle hdouble hdouble')

/-- A level that is not negative is rounded to a volume that is not. -/
theorem rounded_nonneg (hnonneg : 0 ≤ level) (hok : rounded level = .ok volume) : 0 ≤ volume :=
  rounded_mono hnonneg rounded_zero hok

/-- A level that is not negative can be rounded if a higher one can. -/
theorem exists_rounded_of_le (hnonneg : 0 ≤ low) (hle : low ≤ high)
    (hhigh : rounded high = .ok volume) : ∃ volume', rounded low = .ok volume' := by
  obtain ⟨double', hdouble', _⟩ := rounded_eq_ok_iff.mp hhigh
  obtain ⟨double, hdouble⟩ := Ratio.exists_toBinary64_of_le hnonneg hle hdouble'
  exact ⟨double.nearestInteger, rounded_eq_ok_iff.mpr ⟨double, hdouble, rfl⟩⟩

/-- The volume is no lower than the lower level, rounded, and no higher than the higher one, where
it is not too high for a double. -/
structure Between (low high : Rat) (volume : Int) : Prop where
  /-- The lower level can be rounded, to no higher volume. -/
  low_le : ∃ lowest, rounded low = .ok lowest ∧ lowest ≤ volume
  /-- If the higher level can be rounded, it is to no lower volume. -/
  le_high : ∀ highest, rounded high = .ok highest → volume ≤ highest

/-- A level is rounded to a volume between the levels that enclose it. -/
theorem between_of_rounded (hnonneg : 0 ≤ low) (hlow : low ≤ level) (hhigh : level ≤ high)
    (hok : rounded level = .ok volume) : Between low high volume := by
  constructor
  · obtain ⟨lowest, hlowest⟩ := exists_rounded_of_le hnonneg hlow hok
    exact ⟨lowest, hlowest, rounded_mono hlow hlowest hok⟩
  · intro highest hhighest
    exact rounded_mono hhigh hok hhighest

end Velocity

/-- The second event is the first one with the volume of its level on a ramp, which is a factor
times its own volume. -/
structure Event.Ramped (factor : Rat) (event shaped : Event) : Prop where
  /-- Nothing but the volume is new. -/
  same : shaped = { event with volume := shaped.volume }
  /-- The volume is the rounded level, or the lowest one. -/
  volume : ∃ volume, Velocity.rounded (factor * event.volume) = .ok volume ∧
    shaped.volume = max Velocity.lowest volume

/-- The second event is the first one with a new volume. If the old one is not negative, the new one
is the rounded level, and it is between two multiples of the old one. -/
structure Event.Between (low factor high : Rat) (event shaped : Event) : Prop where
  /-- Nothing but the volume is new. -/
  same : shaped = { event with volume := shaped.volume }
  /-- The volume is the rounded level itself, and not the lowest volume instead. -/
  level : 0 ≤ event.volume → Velocity.rounded (factor * event.volume) = .ok shaped.volume
  /-- The volume is between the multiples. -/
  bounds : 0 ≤ event.volume →
    Velocity.Between (low * event.volume) (high * event.volume) shaped.volume

namespace Event.Ramped

variable {factor factor' : Rat} {event event' shaped shaped' : Event}

/-- No volume on a ramp is negative. -/
theorem nonneg (hramped : event.Ramped factor shaped) : 0 ≤ shaped.volume := by
  obtain ⟨volume, _, hvolume⟩ := hramped.volume
  rw [hvolume]
  exact le_max_left _ _

/-- A level that is not negative is not raised to the lowest volume. -/
theorem rounded_eq (hramped : event.Ramped factor shaped) (hlevel : 0 ≤ factor * event.volume) :
    Velocity.rounded (factor * event.volume) = .ok shaped.volume := by
  obtain ⟨volume, hrounded, hvolume⟩ := hramped.volume
  have hnonneg : Velocity.lowest ≤ volume := Velocity.rounded_nonneg hlevel hrounded
  rw [hvolume, max_eq_right hnonneg, hrounded]

/-- A volume is between the multiples whose factors enclose that of its level. -/
theorem between {low high : Rat} (hramped : event.Ramped factor shaped) (hnonneg : 0 ≤ low)
    (hlow : low ≤ factor) (hhigh : factor ≤ high) : event.Between low factor high shaped := by
  have hrounded (hvolume : 0 ≤ event.volume) :
      Velocity.rounded (factor * event.volume) = .ok shaped.volume :=
    hramped.rounded_eq (mul_nonneg (hnonneg.trans hlow) (Int.cast_nonneg hvolume))
  refine ⟨hramped.same, hrounded, fun hvolume => ?_⟩
  have hcast : (0 : Rat) ≤ event.volume := Int.cast_nonneg hvolume
  exact Velocity.between_of_rounded (mul_nonneg hnonneg hcast)
    (mul_le_mul_of_nonneg_right hlow hcast) (mul_le_mul_of_nonneg_right hhigh hcast)
    (hrounded hvolume)

/-- Two events of one volume that is not negative end up in the order of their factors. -/
theorem volume_le (hramped : event.Ramped factor shaped) (hramped' : event'.Ramped factor' shaped')
    (hvolume : event.volume = event'.volume) (hnonneg : 0 ≤ event.volume)
    (hfactor : factor ≤ factor') : shaped.volume ≤ shaped'.volume := by
  obtain ⟨volume, hrounded, heq⟩ := hramped.volume
  obtain ⟨volume', hrounded', heq'⟩ := hramped'.volume
  have hlevel : factor * event.volume ≤ factor' * event'.volume := by
    rw [hvolume]
    exact mul_le_mul_of_nonneg_right hfactor (Int.cast_nonneg (hvolume ▸ hnonneg))
  rw [heq, heq']
  exact max_le_max_left _ (Velocity.rounded_mono hlevel hrounded hrounded')

section Lists

variable {factors : Event → Rat} {events shapedEvents : List Event} {volume : Int}

/-- No volumes on a ramp are negative. -/
theorem forall_nonneg
    (hramped : List.Forall₂ (fun event => event.Ramped (factors event)) events shapedEvents) :
    ∀ event ∈ shapedEvents, 0 ≤ event.volume :=
  forall_mem_of_forall₂ (fun _ _ hevent => hevent.nonneg) hramped

/-- Events of one volume that is not negative rise along the list where their factors do. -/
theorem pairwise_le
    (hramped : List.Forall₂ (fun event => event.Ramped (factors event)) events shapedEvents)
    (hvolumes : ∀ event ∈ events, event.volume = volume) (hnonneg : 0 ≤ volume)
    (hfactors : events.Pairwise fun a b => factors a ≤ factors b) :
    shapedEvents.Pairwise fun a b => a.volume ≤ b.volume := by
  have hboth := (List.forall₂_and_left _ _).mpr ⟨hvolumes, hramped⟩
  refine pairwise_of_forall₂ (fun a b shapedA shapedB hle ha hb => ?_) hboth hfactors
  exact ha.2.volume_le hb.2 (ha.1.trans hb.1.symm) (ha.1 ▸ hnonneg) hle

/-- They fall along the list where their factors do: from its end on, they rise. -/
theorem pairwise_ge
    (hramped : List.Forall₂ (fun event => event.Ramped (factors event)) events shapedEvents)
    (hvolumes : ∀ event ∈ events, event.volume = volume) (hnonneg : 0 ≤ volume)
    (hfactors : events.Pairwise fun a b => factors a ≥ factors b) :
    shapedEvents.Pairwise fun a b => a.volume ≥ b.volume := by
  have hreversed := List.forall₂_reverse_iff.mpr hramped
  have hsame : ∀ event ∈ events.reverse, event.volume = volume := by
    intro event hevent
    exact hvolumes event (List.mem_reverse.mp hevent)
  have hrising := pairwise_le hreversed hsame hnonneg (List.pairwise_reverse.mpr hfactors)
  exact List.pairwise_reverse.mp hrising

end Lists

end Event.Ramped

namespace Player

/-- What a ramp adds to volumes by its end, as a share of their level. -/
def rise (falling : Bool) (amount : Ratio) : Rat :=
  if falling then -amount.value else amount.value

theorem slope_eq_rise_div (falling : Bool) (amount elapsed : Ratio) :
    slope falling amount elapsed = rise falling amount / elapsed.value := by
  cases falling with
  | false => rfl
  | true => exact (neg_div _ _).symm

/-- An event at a time that has a value is put on a ramp if its level can be rounded. -/
theorem onRamp_eq_ok_iff {start : Ratio} {rate : Rat} {event shaped : Event} :
    onRamp start (.ofValue rate) event = .ok shaped ↔
      event.time.Defined ∧ start.Defined ∧
        event.Ramped (1 + (event.time.value - start.value) * rate) shaped := by
  simp only [onRamp, bind_eq_ok_iff, pure_eq_ok_iff, rampVolume_eq_ok_iff, Ratio.value_ofValue]
  have hlevel : ((event.time.value - start.value) * rate + 1) * event.volume =
      (1 + (event.time.value - start.value) * rate) * event.volume := by ring
  rw [hlevel]
  constructor
  · rintro ⟨_, ⟨htime, hstart, _, double, hdouble, rfl⟩, rfl⟩
    have hrounded := Velocity.rounded_eq_ok_iff.mpr ⟨double, hdouble, rfl⟩
    exact ⟨htime, hstart, rfl, _, hrounded, rfl⟩
  · rintro ⟨htime, hstart, hsame, volume, hrounded, hvolume⟩
    obtain ⟨double, hdouble, rfl⟩ := Velocity.rounded_eq_ok_iff.mp hrounded
    exact ⟨shaped.volume, ⟨htime, hstart, Ratio.ofValue_defined _, double, hdouble, hvolume.symm⟩,
      hsame.symm⟩

end Player

end Polyphony
