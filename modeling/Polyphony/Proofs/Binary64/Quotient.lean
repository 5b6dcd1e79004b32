import Mathlib.Algebra.Order.Field.Basic
import Polyphony.Proofs.Binary64.Order
import Polyphony.Proofs.Ratio.Exact

/-!
# Signs of quotients

The double nearest to a quotient has the sign of the quotient: for quotients of doubles, of integers
and so for ratios. A ratio that is not negative becomes a double that is not negative.
-/

namespace Polyphony

namespace Binary64

theorem div_of_isNaN {x y : Binary64} (hx : x.isNaN = false) (hy : y.isNaN) :
    (x.div y).isNaN := by
  have hdiv : x.div y = y.quieted := by simp [div, notNumber?, hx, hy]
  rw [hdiv]
  exact isNaN_quieted hy

/-- A quotient has the sign that those of its operands come to. -/
theorem negative_div {x y : Binary64} (hx : x.isFinite) (hzero : x.isZero = false)
    (hy : y.isNaN = false) : (x.div y).negative = (x.negative != y.negative) := by
  rw [div, notNumber?_eq_none (isNaN_of_isFinite hx) hy, Option.getD_none,
    isInfinite_of_isFinite hx, hzero, if_neg Bool.false_ne_true, if_neg Bool.false_ne_true]
  split
  · rfl
  · split
    · rfl
    · exact negative_ofUnits _ _ _

/-- The parts of the finite double nearest to a quotient of units, where there is one. -/
theorem of_ofUnits? {negative : Bool} {numer denom : Nat} {x : Binary64}
    (hsome : ofUnits? negative numer denom = some x) :
    x.isFinite ∧ x.negative = negative ∧ x.magnitude = nearestMagnitude numer denom := by
  unfold ofUnits? at hsome
  dsimp only at hsome
  split at hsome
  case isTrue hlt =>
    obtain rfl := Option.some.inj hsome
    exact ⟨decide_eq_true hlt, rfl, rfl⟩
  case isFalse => exact absurd hsome (Option.some_ne_none x).symm

theorem negative_ofQuotient? {numer denom : Int} {x : Binary64}
    (hsome : ofQuotient? numer denom = some x) :
    x.negative = (decide (numer < 0) != decide (denom < 0)) :=
  (of_ofUnits? hsome).2.1

/-- The double nearest to a quotient that is not negative stands no lower than zero. -/
theorem place_nonneg_of_ofQuotient? {numer denom : Int} {x : Binary64}
    (hsome : ofQuotient? numer denom = some x) (hsign : numer ≠ 0 → (numer < 0 ↔ denom < 0)) :
    0 ≤ x.place := by
  by_cases hzero : numer = 0
  · have hmagnitude := (of_ofUnits? hsome).2.2
    rw [hzero, Int.natAbs_zero, Nat.zero_mul, nearestMagnitude_zero] at hmagnitude
    rw [place, hmagnitude]
    split <;> rfl
  · have hnegative : x.negative = false := by
      rw [negative_ofQuotient? hsome, bne_eq_false_iff_eq, decide_eq_decide]
      exact hsign hzero
    rw [place, if_neg (by simp [hnegative])]
    exact Int.natCast_nonneg _

end Binary64

namespace Ratio

variable {r : Ratio} {x : Binary64}

/-- A ratio becomes a double when it has a value that is not too large. -/
theorem toBinary64_eq_ok_iff :
    r.toBinary64 = .ok x ↔ r.Defined ∧ Binary64.ofQuotient? r.numer r.denom = some x := by
  unfold toBinary64 Defined
  split
  case isTrue hzero => simp [hzero]
  case isFalse hne => cases Binary64.ofQuotient? r.numer r.denom <;> simp [hne]

theorem isFinite_of_toBinary64 (hok : r.toBinary64 = .ok x) : x.isFinite :=
  (Binary64.of_ofUnits? (toBinary64_eq_ok_iff.mp hok).2).1

/-- A ratio that is not negative becomes a double that is not negative. -/
theorem place_nonneg_of_toBinary64 (hok : r.toBinary64 = .ok x) (hvalue : 0 ≤ r.value) :
    0 ≤ x.place := by
  obtain ⟨hdefined, hsome⟩ := toBinary64_eq_ok_iff.mp hok
  refine Binary64.place_nonneg_of_ofQuotient? hsome fun hnumer => ?_
  have hdenom : r.denom ≠ 0 := hdefined
  have hproduct : 0 ≤ r.numer * r.denom := by
    have h := div_nonneg_iff.mp hvalue
    rcases h with h | h
    · exact mul_nonneg (by exact_mod_cast h.1) (by exact_mod_cast h.2)
    · exact mul_nonneg_of_nonpos_of_nonpos (by exact_mod_cast h.1) (by exact_mod_cast h.2)
  constructor
  · intro hneg
    have hle := nonpos_of_mul_nonneg_right hproduct hneg
    omega
  · intro hneg
    have hle := nonpos_of_mul_nonneg_left hproduct hneg
    omega

end Ratio

end Polyphony
