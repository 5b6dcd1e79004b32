import Polyphony.Proofs.Binary64.Place
import Polyphony.Proofs.Binary64.Quotient

/-!
# Doubles and integers nearest to values

A value goes to the nearest double, if it is not too large for one, and a double goes to the nearest
integer. Both steps keep the order. Below a value with a double there are doubles for all values
that are not negative.
-/

namespace Polyphony

namespace Binary64

/-- Doubles go to integers in their order. -/
theorem nearestInteger_mono {x y : Binary64} (hle : x.place ≤ y.place) :
    x.nearestInteger ≤ y.nearestInteger := by
  have hunits : x.units ≤ y.units := units_le_iff.mpr hle
  have hround {small large : Nat} (h : small ≤ large) :
      roundQuotient small (Nat.pow 2 unitExponent) ≤ roundQuotient large (Nat.pow 2 unitExponent) :=
    roundQuotient_mono pow_unitExponent_pos pow_unitExponent_pos (Nat.mul_le_mul_right _ h)
  unfold nearestInteger
  dsimp only
  rcases lt_or_ge x.units 0 with hx | hx <;> rcases lt_or_ge y.units 0 with hy | hy
  · have hnatAbs : y.units.natAbs ≤ x.units.natAbs := by omega
    rw [if_pos hx, if_pos hy]
    exact neg_le_neg (Int.ofNat_le.mpr (hround hnatAbs))
  · rw [if_pos hx, if_neg hy.not_gt]
    exact (neg_nonpos.mpr (Int.natCast_nonneg _)).trans (Int.natCast_nonneg _)
  · omega
  · have hnatAbs : x.units.natAbs ≤ y.units.natAbs := by omega
    rw [if_neg hx.not_gt, if_neg hy.not_gt]
    exact Int.ofNat_le.mpr (hround hnatAbs)

end Binary64

namespace Ratio

open Binary64

variable {low high value : Rat} {x y : Binary64}

/-- A value becomes a double when its magnitude is not too large for a finite one. -/
theorem toBinary64_ofValue_eq_ok_iff :
    (ofValue value).toBinary64 = .ok x ↔
      ofUnits? (decide (value.num < 0))
        (value.num * (Nat.pow 2 unitExponent : Nat)).natAbs value.den = some x := by
  have hdenom : decide ((value.den : Int) < 0) = false := by
    rw [decide_eq_false_iff_not, not_lt]
    exact Int.natCast_nonneg _
  rw [toBinary64_eq_ok_iff, and_iff_right (ofValue_defined value), ofQuotient?, ofValue, hdenom,
    Bool.bne_false, Int.natAbs_mul, Int.natAbs_natCast, Int.natAbs_natCast]

/-- The double of a value takes the place of the value. -/
theorem place_of_toBinary64 (hok : (ofValue value).toBinary64 = .ok x) :
    x.place = roundedPlace (value.num * (Nat.pow 2 unitExponent : Nat)) value.den := by
  have hpow : (0 : Int) < (Nat.pow 2 unitExponent : Nat) :=
    Int.natCast_pos.mpr pow_unitExponent_pos
  have hx := toBinary64_ofValue_eq_ok_iff.mp hok
  have hunits : ofUnits (decide (value.num < 0))
      (value.num * (Nat.pow 2 unitExponent : Nat)).natAbs value.den = x := by
    rw [ofUnits, hx, Option.getD_some]
  rw [← hunits]
  refine place_ofUnits value.den fun _ => ?_
  rw [decide_eq_decide, mul_neg_iff]
  omega

/-- Values and their units compare alike. -/
theorem units_cross_le (hle : low ≤ high) :
    low.num * (Nat.pow 2 unitExponent : Nat) * high.den ≤
      high.num * (Nat.pow 2 unitExponent : Nat) * low.den := by
  have hcross := (Rat.le_iff low high).mp hle
  have hscaled := mul_le_mul_of_nonneg_right hcross (Int.natCast_nonneg (Nat.pow 2 unitExponent))
  rw [mul_right_comm low.num, mul_right_comm high.num]
  exact hscaled

/-- The doubles of values are in the order of the values. -/
theorem place_mono_of_toBinary64 (hle : low ≤ high) (hlow : (ofValue low).toBinary64 = .ok x)
    (hhigh : (ofValue high).toBinary64 = .ok y) : x.place ≤ y.place := by
  rw [place_of_toBinary64 hlow, place_of_toBinary64 hhigh]
  exact roundedPlace_mono low.den_pos high.den_pos (units_cross_le hle)

/-- A value that is not negative has a double if a larger value has one. -/
theorem exists_toBinary64_of_le (hnonneg : 0 ≤ low) (hle : low ≤ high)
    (hhigh : (ofValue high).toBinary64 = .ok y) : ∃ x, (ofValue low).toBinary64 = .ok x := by
  have hy := toBinary64_ofValue_eq_ok_iff.mp hhigh
  obtain ⟨hfinite, _, hmagnitude⟩ := of_ofUnits? hy
  have hcross := units_cross_le hle
  have hlowUnits : 0 ≤ low.num * (Nat.pow 2 unitExponent : Nat) :=
    mul_nonneg (Rat.num_nonneg.mpr hnonneg) (Int.natCast_nonneg _)
  have hhighUnits : 0 ≤ high.num * (Nat.pow 2 unitExponent : Nat) :=
    mul_nonneg (Rat.num_nonneg.mpr (hnonneg.trans hle)) (Int.natCast_nonneg _)
  have hmono : nearestMagnitude (low.num * (Nat.pow 2 unitExponent : Nat)).natAbs low.den ≤
      nearestMagnitude (high.num * (Nat.pow 2 unitExponent : Nat)).natAbs high.den := by
    refine nearestMagnitude_mono low.den_pos high.den_pos (Int.ofNat_le.mp ?_)
    rw [Int.natCast_mul, Int.natCast_mul, Int.natAbs_of_nonneg hlowUnits,
      Int.natAbs_of_nonneg hhighUnits]
    exact hcross
  have hlt : nearestMagnitude (low.num * (Nat.pow 2 unitExponent : Nat)).natAbs low.den <
      infiniteMagnitude := by
    rw [← hmagnitude] at hmono
    exact hmono.trans_lt (of_decide_eq_true hfinite)
  exact ⟨_, toBinary64_ofValue_eq_ok_iff.mpr (dif_pos hlt)⟩

end Ratio

end Polyphony
