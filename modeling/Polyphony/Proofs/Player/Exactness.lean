import Polyphony.Proofs.Binary64.Integral
import Polyphony.Proofs.Player.Level

/-!
# Exact volumes

An accent and a ramp take new volumes through the nearest double. As long as the exact volume has a
numerator of at most 52 bits, the detour cannot be heard: an accent cuts off just the fraction of the
exact volume, and a ramp gives just the integer that is nearest to it.
-/

namespace Polyphony

/-- A level with a numerator of at most 52 bits is rounded to its nearest integer. -/
theorem Velocity.exists_rounded_of_small {level : Rat} (hsmall : level.num.natAbs < 2 ^ 52) :
    ∃ volume, NearestInteger level volume ∧ rounded level = .ok volume := by
  obtain ⟨double, hdouble⟩ := Ratio.exists_toBinary64_of_small hsmall
  exact ⟨double.nearestInteger, Ratio.nearestInteger_of_toBinary64 hsmall hdouble,
    rounded_eq_ok_iff.mpr ⟨double, hdouble, rfl⟩⟩

namespace Player

variable {amount start rate time : Ratio} {volume : Int}

/-- An accent cuts the exact volume to its integer part. -/
theorem accentedVolume_of_small (hamount : amount.Defined)
    (hsmall : (amount.value * volume).num.natAbs < 2 ^ 52) :
    accentedVolume amount volume =
      .ok ((amount.value * volume).num.tdiv (amount.value * volume).den) := by
  have hproduct : amount.mul (.ofInt volume) = .ok (.ofValue (amount.value * volume)) := by
    rw [hamount.mul_eq (Ratio.ofInt_defined volume), Ratio.value_ofInt]
  obtain ⟨double, hdouble⟩ := Ratio.exists_toBinary64_of_small hsmall
  simp only [accentedVolume, bind_eq_ok_iff, pure_eq_ok_iff]
  exact ⟨_, hproduct, double, hdouble, Ratio.integerPart_of_toBinary64 hsmall hdouble⟩

/-- The exact level of an event on a ramp. -/
def level (start rate time : Ratio) (volume : Int) : Rat :=
  (1 + (time.value - start.value) * rate.value) * volume

/-- A ramp takes an event to its exact level, rounded to the nearest integer. -/
theorem rampVolume_of_small (hstart : start.Defined) (hrate : rate.Defined) (htime : time.Defined)
    (hsmall : (level start rate time volume).num.natAbs < 2 ^ 52) :
    ∃ nearest, NearestInteger (level start rate time volume) nearest ∧
      rampVolume start rate time volume = .ok (max Velocity.lowest nearest) := by
  obtain ⟨nearest, hnearest, hrounded⟩ := Velocity.exists_rounded_of_small hsmall
  obtain ⟨double, hdouble, rfl⟩ := Velocity.rounded_eq_ok_iff.mp hrounded
  refine ⟨double.nearestInteger, hnearest, rampVolume_eq_ok_iff.mpr
    ⟨htime, hstart, hrate, double, ?_, rfl⟩⟩
  rw [add_comm _ 1]
  exact hdouble

/-- New volumes are exact: that of an accent is cut off from the exact volume, and that of a ramp is
the nearest integer to the exact level, or the lowest volume. -/
theorem volumes_exact_in_range :
    (∀ (amount : Ratio) (volume : Int), amount.Defined →
      (amount.value * volume).num.natAbs < 2 ^ 52 →
      accentedVolume amount volume =
        .ok ((amount.value * volume).num.tdiv (amount.value * volume).den)) ∧
    (∀ (start rate time : Ratio) (volume : Int), start.Defined → rate.Defined → time.Defined →
      (level start rate time volume).num.natAbs < 2 ^ 52 →
      ∃ nearest, NearestInteger (level start rate time volume) nearest ∧
        rampVolume start rate time volume = .ok (max Velocity.lowest nearest)) := by
  constructor
  · intro amount volume hamount hsmall
    exact accentedVolume_of_small hamount hsmall
  · intro start rate time volume hstart hrate htime hsmall
    exact rampVolume_of_small hstart hrate htime hsmall

/-- With 52 bits above the line, a volume just below one is still cut to nothing. A level at a half
is rounded to the even volume. -/
theorem volumes_exact_at_edges :
    accentedVolume ⟨2 ^ 52 - 1, 2 ^ 52 + 1⟩ 1 = .ok 0 ∧ rampVolume .zero ⟨1, 4⟩ .one 2 = .ok 2 := by
  obtain ⟨haccent, hramp⟩ := volumes_exact_in_range
  constructor
  · rw [haccent _ _ (by decide +kernel) (by decide +kernel)]
    decide +kernel
  · obtain ⟨nearest, hnearest, hvolume⟩ :=
      hramp .zero ⟨1, 4⟩ .one 2 (by decide +kernel) (by decide +kernel) (by decide +kernel)
        (by decide +kernel)
    have hlevel : level .zero ⟨1, 4⟩ .one 2 = 5 / 2 := by decide +kernel
    have htwo : NearestInteger (level .zero ⟨1, 4⟩ .one 2) 2 := by
      rw [hlevel]
      exact ⟨by norm_num [abs_of_pos], fun _ => even_two⟩
    rw [hvolume, hnearest.unique htwo]
    rfl

end Player

end Polyphony
