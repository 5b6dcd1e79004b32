import Polyphony.Proofs.Binary64.Rounding

/-!
# Places of rounded values

The place of a double is that of its exact value: doubles stand in the order of their units, and what
is rounded once takes the place that is nearest to the exact value. Rounding keeps the order of exact
values, and a finite double is rounded to itself.
-/

namespace Polyphony.Binary64

theorem pow_unitExponent_pos : 0 < Nat.pow 2 unitExponent := by
  rw [Nat.pow_eq]
  positivity

/-- The magnitude of the double nearest to a quotient of units, infinities included. -/
def roundedMagnitude (numer denom : Nat) : Nat :=
  min (nearestMagnitude numer denom) infiniteMagnitude

theorem roundedMagnitude_mono {a b c d : Nat} (hb : 0 < b) (hd : 0 < d) (hle : a * d ≤ c * b) :
    roundedMagnitude a b ≤ roundedMagnitude c d :=
  min_le_min_right _ (nearestMagnitude_mono hb hd hle)

/-- The place of the double nearest to a quotient of units. -/
def roundedPlace (units : Int) (denom : Nat) : Int :=
  if units < 0 then -(roundedMagnitude units.natAbs denom : Int)
  else roundedMagnitude units.natAbs denom

/-- Places are in the order of the exact values. -/
theorem roundedPlace_mono {a c : Int} {b d : Nat} (hb : 0 < b) (hd : 0 < d)
    (hle : a * d ≤ c * b) : roundedPlace a b ≤ roundedPlace c d := by
  unfold roundedPlace
  rcases lt_or_ge a 0 with ha | ha <;> rcases lt_or_ge c 0 with hc | hc
  · have hcross : c.natAbs * b ≤ a.natAbs * d := by
      zify
      rw [abs_of_neg ha, abs_of_neg hc]
      linarith
    rw [if_pos ha, if_pos hc]
    exact neg_le_neg (Int.ofNat_le.mpr (roundedMagnitude_mono hd hb hcross))
  · rw [if_pos ha, if_neg hc.not_gt]
    exact (neg_nonpos.mpr (Int.natCast_nonneg _)).trans (Int.natCast_nonneg _)
  · have hleft : 0 ≤ a * d := mul_nonneg ha (Int.natCast_nonneg d)
    have hright : c * b < 0 := mul_neg_of_neg_of_pos hc (Int.natCast_pos.mpr hb)
    exact absurd hle (hright.trans_le hleft).not_ge
  · have hcross : a.natAbs * d ≤ c.natAbs * b := by
      zify
      rwa [abs_of_nonneg ha, abs_of_nonneg hc]
    rw [if_neg ha.not_gt, if_neg hc.not_gt]
    exact Int.ofNat_le.mpr (roundedMagnitude_mono hb hd hcross)

theorem magnitude_ofUnits (negative : Bool) (numer denom : Nat) :
    (ofUnits negative numer denom).magnitude = roundedMagnitude numer denom := by
  unfold ofUnits ofUnits?
  dsimp only
  split
  case isTrue hlt => exact (Nat.min_eq_left hlt.le).symm
  case isFalse hge => exact (Nat.min_eq_right (Nat.le_of_not_lt hge)).symm

theorem negative_ofUnits (negative : Bool) (numer denom : Nat) :
    (ofUnits negative numer denom).negative = negative := by
  unfold ofUnits ofUnits?
  dsimp only
  split <;> rfl

/-- What is rounded is a number. -/
theorem isNaN_ofUnits (negative : Bool) (numer denom : Nat) :
    (ofUnits negative numer denom).isNaN = false := by
  rw [isNaN, magnitude_ofUnits]
  exact decide_eq_false (Nat.min_le_right _ _).not_gt

/-- What is rounded takes the place of its exact value, if it has the sign of it; the sign of zero
does not count. -/
theorem place_ofUnits {negative : Bool} {units : Int} (denom : Nat)
    (hsign : units ≠ 0 → negative = decide (units < 0)) :
    (ofUnits negative units.natAbs denom).place = roundedPlace units denom := by
  unfold place roundedPlace
  rw [negative_ofUnits, magnitude_ofUnits]
  by_cases hzero : units = 0
  · simp [hzero, roundedMagnitude]
  · simp only [hsign hzero, decide_eq_true_eq]

theorem natAbs_units (x : Binary64) : x.units.natAbs = magnitudeUnits x.magnitude := by
  unfold units
  split <;> omega

theorem magnitudeUnits_eq_zero_iff {magnitude : Nat} :
    magnitudeUnits magnitude = 0 ↔ magnitude = 0 := by
  have h : magnitudeUnits magnitude ≤ magnitudeUnits 0 ↔ magnitude ≤ 0 := magnitudeUnits_le_iff
  have hzero : magnitudeUnits 0 = 0 := rfl
  rwa [hzero, Nat.le_zero, Nat.le_zero] at h

/-- The sign of a double is that of its units, unless these are zero. -/
theorem negative_eq_of_units_ne_zero {x : Binary64} (hunits : x.units ≠ 0) :
    x.negative = decide (x.units < 0) := by
  have hmagnitude : magnitudeUnits x.magnitude ≠ 0 := by
    rw [← natAbs_units]
    omega
  unfold units
  cases x.negative <;> simp
  omega

/-- Doubles stand in the order of their units. -/
theorem units_le_iff {x y : Binary64} : x.units ≤ y.units ↔ x.place ≤ y.place := by
  have hle (m n : Nat) : magnitudeUnits m ≤ magnitudeUnits n ↔ m ≤ n := magnitudeUnits_le_iff
  have hzero (m : Nat) : magnitudeUnits m = 0 ↔ m = 0 := magnitudeUnits_eq_zero_iff
  have hxy := hle x.magnitude y.magnitude
  have hyx := hle y.magnitude x.magnitude
  have hx := hzero x.magnitude
  have hy := hzero y.magnitude
  unfold units place
  cases x.negative <;> cases y.negative <;> simp <;> omega

/-- A finite double takes the place of its own units. -/
theorem roundedPlace_units {x : Binary64} (hfinite : x.isFinite) :
    roundedPlace x.units 1 = x.place := by
  have hlt : x.magnitude < infiniteMagnitude := of_decide_eq_true hfinite
  have hmagnitude : roundedMagnitude x.units.natAbs 1 = x.magnitude := by
    rw [natAbs_units, roundedMagnitude, nearestMagnitude_magnitudeUnits, Nat.min_eq_left hlt.le]
  have hzero : magnitudeUnits x.magnitude = 0 ↔ x.magnitude = 0 := magnitudeUnits_eq_zero_iff
  unfold roundedPlace place
  rw [hmagnitude]
  unfold units
  cases x.negative <;> simp
  omega

theorem le_iff {x y : Binary64} :
    x.le y ↔ x.isNaN = false ∧ y.isNaN = false ∧ x.place ≤ y.place := by
  simp [le, and_assoc]

theorem lt_iff {x y : Binary64} :
    x.lt y ↔ x.isNaN = false ∧ y.isNaN = false ∧ x.place < y.place := by
  simp [lt, and_assoc]

theorem eq_iff {x y : Binary64} :
    x.eq y ↔ x.isNaN = false ∧ y.isNaN = false ∧ x.place = y.place := by
  simp [eq, and_assoc]

theorem lt_or_eq_of_le {x y : Binary64} (hle : x.le y) : x.lt y ∨ x.eq y := by
  obtain ⟨hx, hy, hplace⟩ := le_iff.mp hle
  rcases hplace.lt_or_eq with hlt | heq
  · exact .inl (lt_iff.mpr ⟨hx, hy, hlt⟩)
  · exact .inr (eq_iff.mpr ⟨hx, hy, heq⟩)

end Polyphony.Binary64
