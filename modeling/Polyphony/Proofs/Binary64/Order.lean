import Polyphony.Binary64.Arithmetic
import Polyphony.Proofs.Binary64.Place

/-!
# The order of sums and products

A sum with a double that is not negative stands no lower than the other summand, and products with
such a double stand as their other factors do, as long as the results are numbers. Infinities are the
reason for most cases: a product with one is an infinity or no number at all.
-/

namespace Polyphony.Binary64

variable {x y pace : Binary64}

theorem isNaN_of_isFinite (hfinite : x.isFinite) : x.isNaN = false := by
  simp only [isFinite, isNaN, decide_eq_true_eq, decide_eq_false_iff_not] at *
  omega

theorem isInfinite_of_isFinite (hfinite : x.isFinite) : x.isInfinite = false := by
  simp only [isFinite, isInfinite, decide_eq_true_eq, decide_eq_false_iff_not] at *
  omega

theorem notNumber?_eq_none (hx : x.isNaN = false) (hy : y.isNaN = false) :
    notNumber? x y = none := by
  rw [notNumber?, hx, hy]
  rfl

theorem isNaN_quieted {x : Binary64} (hx : x.isNaN) : x.quieted.isNaN := by
  have hmagnitude : infiniteMagnitude < x.magnitude := of_decide_eq_true hx
  unfold quieted
  split
  · exact hx
  · split
    · exact decide_eq_true (hmagnitude.trans_le (Nat.le_add_right _ _))
    · exact hx

/-- Only products of numbers are numbers. -/
theorem isNaN_of_mul (hproduct : (x.mul y).isNaN = false) :
    x.isNaN = false ∧ y.isNaN = false := by
  have hquieted {z : Binary64} (hz : z.isNaN) (hmul : x.mul y = z.quieted) : False := by
    rw [hmul, isNaN_quieted hz] at hproduct
    exact Bool.false_ne_true hproduct.symm
  cases hx : x.isNaN with
  | true => exact (hquieted hx (by simp [mul, notNumber?, hx])).elim
  | false =>
    cases hy : y.isNaN with
    | true => exact (hquieted hy (by simp [mul, notNumber?, hx, hy])).elim
    | false => exact ⟨rfl, rfl⟩

/-- The sum of finite doubles is rounded once. -/
theorem add_of_isFinite (hx : x.isFinite) (hy : y.isFinite) : x.add y = addFinite x y := by
  rw [add, notNumber?_eq_none (isNaN_of_isFinite hx) (isNaN_of_isFinite hy), Option.getD_none,
    isInfinite_of_isFinite hx, isInfinite_of_isFinite hy, if_neg Bool.false_ne_true,
    if_neg Bool.false_ne_true]

theorem place_addFinite (x y : Binary64) :
    (addFinite x y).place = roundedPlace (x.units + y.units) 1 :=
  place_ofUnits 1 fun hsum => if_neg hsum

/-- A finite double stands no higher than its sum with one that is not negative. -/
theorem le_add (hx : x.isFinite) (hy : y.isFinite) (hnonneg : 0 ≤ y.place) : x.le (x.add y) := by
  have hunits : 0 ≤ y.units := (units_le_iff (x := zero false)).mpr hnonneg
  have hplace : x.place ≤ (addFinite x y).place := by
    rw [place_addFinite, ← roundedPlace_units hx]
    exact roundedPlace_mono Nat.one_pos Nat.one_pos (by omega)
  rw [add_of_isFinite hx hy]
  exact le_iff.mpr ⟨isNaN_of_isFinite hx, isNaN_ofUnits _ _ _, hplace⟩

/-- The sign of a product of doubles that do not vanish. -/
theorem negative_mul (hunits : x.units * y.units ≠ 0) :
    (x.negative != y.negative) = decide (x.units * y.units < 0) := by
  obtain ⟨hx, hy⟩ := mul_ne_zero_iff.mp hunits
  rw [negative_eq_of_units_ne_zero hx, negative_eq_of_units_ne_zero hy]
  rcases lt_or_gt_of_ne hx with hx | hx <;> rcases lt_or_gt_of_ne hy with hy | hy
  · simp [hx, hy, (mul_pos_of_neg_of_neg hx hy).not_gt]
  · simp [hx, hy.not_gt, mul_neg_of_neg_of_pos hx hy]
  · simp [hx.not_gt, hy, mul_neg_of_pos_of_neg hx hy]
  · simp [hx.not_gt, hy.not_gt, (mul_pos hx hy).not_gt]

/-- The product of finite doubles is rounded once. -/
theorem place_mul_of_isFinite (hx : x.isFinite) (hy : y.isFinite) :
    (x.mul y).place = roundedPlace (x.units * y.units) (Nat.pow 2 unitExponent) := by
  rw [mul, notNumber?_eq_none (isNaN_of_isFinite hx) (isNaN_of_isFinite hy), Option.getD_none,
    isInfinite_of_isFinite hx, isInfinite_of_isFinite hy, Bool.or_self,
    if_neg Bool.false_ne_true, ← Int.natAbs_mul]
  exact place_ofUnits _ negative_mul

/-- A product with an infinity, if it is a number, is an infinity, and no factor of it is zero. -/
theorem mul_of_isInfinite (hx : x.isNaN = false) (hy : y.isNaN = false)
    (hinfinite : x.isInfinite || y.isInfinite) (hnumber : (x.mul y).isNaN = false) :
    x.isZero = false ∧ x.mul y = infinity (x.negative != y.negative) := by
  have hmul : x.mul y = if x.isZero || y.isZero then undefinedNumber
      else infinity (x.negative != y.negative) := by
    rw [mul, notNumber?_eq_none hx hy, Option.getD_none, if_pos hinfinite]
  cases hzero : x.isZero || y.isZero with
  | true =>
    have hundefined : undefinedNumber.isNaN = false := by rwa [hmul, if_pos hzero] at hnumber
    exact absurd hundefined (by decide)
  | false =>
    rw [hmul, if_neg (by rw [hzero]; exact Bool.false_ne_true)]
    exact ⟨(Bool.or_eq_false_iff.mp hzero).1, rfl⟩

theorem isNaN_eq_false_iff : x.isNaN = false ↔ x.magnitude ≤ infiniteMagnitude := by
  rw [isNaN, decide_eq_false_iff_not, not_lt]

/-- No number stands above positive infinity or below negative infinity. -/
theorem abs_place_le (hx : x.isNaN = false) : |x.place| ≤ infiniteMagnitude := by
  have hmagnitude := Int.ofNat_le.mpr (isNaN_eq_false_iff.mp hx)
  rw [place]
  split
  · rwa [abs_neg, Nat.abs_cast]
  · rwa [Nat.abs_cast]

theorem negative_of_place_pos (hpos : 0 < x.place) : x.negative = false := by
  rw [place] at hpos
  cases hsign : x.negative with
  | false => rfl
  | true =>
    rw [if_pos hsign] at hpos
    omega

theorem place_pos (hsign : x.negative = false) (hzero : x.isZero = false) : 0 < x.place := by
  have hmagnitude : x.magnitude ≠ 0 := of_decide_eq_false hzero
  rw [place, if_neg (by simp [hsign])]
  omega

/-- What stands as high as positive infinity is infinite. -/
theorem isInfinite_of_le_place (hx : x.isNaN = false) (hle : (infiniteMagnitude : Int) ≤ x.place) :
    x.isInfinite := by
  have hmagnitude := isNaN_eq_false_iff.mp hx
  have hplace : x.place ≤ x.magnitude := by
    rw [place]
    split <;> omega
  exact decide_eq_true (by omega)

/-- Only positive infinity is infinite above a finite double. -/
theorem negative_of_isInfinite (hx : x.isFinite) (hy : y.isInfinite) (hle : x.place ≤ y.place) :
    y.negative = false := by
  have hlt : x.magnitude < infiniteMagnitude := of_decide_eq_true hx
  have heq : y.magnitude = infiniteMagnitude := of_decide_eq_true hy
  have hplace : -(x.magnitude : Int) ≤ x.place := by
    rw [place]
    split <;> omega
  cases hsign : y.negative with
  | false => rfl
  | true =>
    rw [place.eq_def y, if_pos hsign] at hle
    omega

theorem isFinite_of_not_isInfinite (hx : x.isNaN = false) (hinfinite : x.isInfinite = false) :
    x.isFinite := by
  have hmagnitude := isNaN_eq_false_iff.mp hx
  have hne : x.magnitude ≠ infiniteMagnitude := of_decide_eq_false hinfinite
  exact decide_eq_true (by omega)

section Pace

variable (hsign : pace.negative = false)
include hsign

/-- A product with a factor that has no sign is infinite as the other factor is signed. -/
theorem mul_eq_infinity (hx : x.isNaN = false) (hinfinite : x.isInfinite || pace.isInfinite)
    (hnumber : (x.mul pace).isNaN = false) :
    x.isZero = false ∧ x.mul pace = infinity x.negative := by
  have hmul := mul_of_isInfinite hx (isNaN_of_mul hnumber).2 hinfinite hnumber
  rwa [hsign, Bool.bne_false] at hmul

/-- An infinite product on the left: negative infinity stands below every number, and positive
infinity stays so for a larger factor. -/
theorem place_mul_le_of_isInfinite (hle : x.le y) (hx : (x.mul pace).isNaN = false)
    (hy : (y.mul pace).isNaN = false) (hinfinite : x.isInfinite || pace.isInfinite) :
    (x.mul pace).place ≤ (y.mul pace).place := by
  obtain ⟨hxNumber, hyNumber, hplace⟩ := le_iff.mp hle
  obtain ⟨hzero, hmul⟩ := mul_eq_infinity hsign hxNumber hinfinite hx
  cases hxSign : x.negative with
  | true =>
    rw [hmul, hxSign]
    exact neg_le_of_abs_le (abs_place_le hy)
  | false =>
    have hpos : 0 < y.place := (place_pos hxSign hzero).trans_le hplace
    have hyInfinite : y.isInfinite || pace.isInfinite := by
      rcases (Bool.or_eq_true _ _).mp hinfinite with h | h
      · have hxPlace : x.place = infiniteMagnitude := by
          rw [place, if_neg (by simp [hxSign])]
          exact congrArg Nat.cast (of_decide_eq_true h)
        rw [isInfinite_of_le_place hyNumber (hxPlace ▸ hplace), Bool.true_or]
      · rw [h, Bool.or_true]
    have hyMul := (mul_eq_infinity hsign hyNumber hyInfinite hy).2
    rw [hmul, hyMul, hxSign, negative_of_place_pos hpos]

/-- Finite products are rounded from exact products, which stand as the factors do. -/
theorem place_mul_le_of_isFinite (hx : x.isFinite) (hy : y.isFinite) (hpace : pace.isFinite)
    (hle : x.place ≤ y.place) : (x.mul pace).place ≤ (y.mul pace).place := by
  have hunits : 0 ≤ pace.units := by
    rw [units, if_neg (by simp [hsign])]
    exact Int.natCast_nonneg _
  have hproduct := mul_le_mul_of_nonneg_right (units_le_iff.mpr hle) hunits
  rw [place_mul_of_isFinite hx hpace, place_mul_of_isFinite hy hpace]
  exact roundedPlace_mono pow_unitExponent_pos pow_unitExponent_pos
    (mul_le_mul_of_nonneg_right hproduct (Int.natCast_nonneg _))

/-- Products with a double that is not negative stand as their other factors do. -/
theorem mul_le_mul (hle : x.le y) (hx : (x.mul pace).isNaN = false)
    (hy : (y.mul pace).isNaN = false) : (x.mul pace).le (y.mul pace) := by
  obtain ⟨hxNumber, hyNumber, hplace⟩ := le_iff.mp hle
  refine le_iff.mpr ⟨hx, hy, ?_⟩
  cases hinfinite : x.isInfinite || pace.isInfinite with
  | true => exact place_mul_le_of_isInfinite hsign hle hx hy hinfinite
  | false =>
    obtain ⟨hxInfinite, hpaceInfinite⟩ := Bool.or_eq_false_iff.mp hinfinite
    have hxFinite := isFinite_of_not_isInfinite hxNumber hxInfinite
    have hpaceFinite := isFinite_of_not_isInfinite (isNaN_of_mul hx).2 hpaceInfinite
    cases hyInfinite : y.isInfinite with
    | true =>
      have hmul := (mul_eq_infinity hsign hyNumber (by rw [hyInfinite, Bool.true_or]) hy).2
      rw [hmul, negative_of_isInfinite hxFinite hyInfinite hplace]
      exact le_of_abs_le (abs_place_le hx)
    | false =>
      have hyFinite := isFinite_of_not_isInfinite hyNumber hyInfinite
      exact place_mul_le_of_isFinite hsign hxFinite hyFinite hpaceFinite hplace

end Pace

end Polyphony.Binary64
