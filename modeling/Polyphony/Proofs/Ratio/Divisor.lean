import Mathlib.Logic.Function.Iterate
import Polyphony.Proofs.Ratio.Exact

/-!
# Divisors, multiples and lowest terms

Repeated division comes to an end, since the second number goes down with every pass, and ends at
the greatest common divisor. The least common multiple goes with it, and so does reduction: it
divides without a rest, and leaves the one ratio in lowest terms of a value.
-/

namespace Polyphony

section Passes

/-- The two numbers after a pass of the repeated division. -/
def divisorPass (pair : Nat × Nat) : Nat × Nat := (pair.2, pair.1 % pair.2)

/-- A pass brings the second number down. -/
theorem divisorPass_snd_lt (left : Nat) {right : Nat} (hright : right ≠ 0) :
    (divisorPass (left, right)).2 < right :=
  Nat.mod_lt _ (Nat.pos_of_ne_zero hright)

/-- A pass does not change where the repeated division ends. -/
theorem divisorLoop_divisorPass {left right : Nat} (hright : right ≠ 0) :
    divisorLoop (divisorPass (left, right)).1 (divisorPass (left, right)).2 =
      divisorLoop left right := by
  rw [divisorLoop.eq_def left right, if_neg hright]
  rfl

/-- The repeated division ends: after no more passes than the second number counts, the second
number is zero for the first time, and the other number is the answer. -/
theorem exists_divisorPass_iterate (left right : Nat) :
    ∃ passes ≤ right, (∀ k < passes, (divisorPass^[k] (left, right)).2 ≠ 0) ∧
      divisorPass^[passes] (left, right) = (divisorLoop left right, 0) := by
  induction left, right using divisorLoop.induct with
  | case1 left =>
    refine ⟨0, le_rfl, fun k hk => absurd hk (Nat.not_lt_zero k), ?_⟩
    rw [divisorLoop, if_pos rfl, Function.iterate_zero_apply]
  | case2 left right hright ih =>
    obtain ⟨passes, hpasses, hrunning, hend⟩ := ih
    have hlt : left % right < right := divisorPass_snd_lt left hright
    refine ⟨passes + 1, by omega, fun k hk => ?_, ?_⟩
    · cases k with
      | zero => exact hright
      | succ k => exact hrunning k (by omega)
    · rw [Function.iterate_succ_apply, ← divisorLoop_divisorPass hright]
      exact hend

end Passes

section Divisors

variable {left right : Int}

/-- A number that is not negative, divides both integers, and is divided by whatever divides
both. -/
structure IsGreatestDivisor (divisor left right : Int) : Prop where
  /-- It is not negative. -/
  nonneg : 0 ≤ divisor
  /-- It divides the first integer. -/
  dvd_left : divisor ∣ left
  /-- It divides the second integer. -/
  dvd_right : divisor ∣ right
  /-- Whatever divides both integers divides it. -/
  greatest : ∀ other, other ∣ left → other ∣ right → other ∣ divisor

/-- A number that is not negative, is a multiple of both integers, and divides every such
multiple. -/
structure IsLeastMultiple (multiple left right : Int) : Prop where
  /-- It is not negative. -/
  nonneg : 0 ≤ multiple
  /-- It is a multiple of the first integer. -/
  left_dvd : left ∣ multiple
  /-- It is a multiple of the second integer. -/
  right_dvd : right ∣ multiple
  /-- It divides every multiple of both integers. -/
  least : ∀ other, left ∣ other → right ∣ other → multiple ∣ other

/-- Only two zeros are divided by everything, and so by zero. -/
theorem IsGreatestDivisor.eq_zero_iff {divisor : Int}
    (hgreatest : IsGreatestDivisor divisor left right) : divisor = 0 ↔ left = 0 ∧ right = 0 := by
  constructor
  · rintro rfl
    exact ⟨zero_dvd_iff.mp hgreatest.dvd_left, zero_dvd_iff.mp hgreatest.dvd_right⟩
  · rintro ⟨rfl, rfl⟩
    exact zero_dvd_iff.mp (hgreatest.greatest 0 (dvd_refl 0) (dvd_refl 0))

theorem commonDivisor_isGreatestDivisor (left right : Int) :
    IsGreatestDivisor (commonDivisor left right) left right := by
  rw [commonDivisor_eq_gcd]
  exact {
    nonneg := Int.natCast_nonneg _
    dvd_left := Int.gcd_dvd_left left right
    dvd_right := Int.gcd_dvd_right left right
    greatest := fun _ hleft hright => Int.dvd_coe_gcd hleft hright }

theorem commonMultiple_isLeastMultiple (left right : Int) :
    IsLeastMultiple (commonMultiple left right) left right := by
  rw [commonMultiple_eq_lcm]
  exact {
    nonneg := Int.natCast_nonneg _
    left_dvd := Int.dvd_lcm_left left right
    right_dvd := Int.dvd_lcm_right left right
    least := fun _ hleft hright => Int.coe_lcm_dvd hleft hright }

/-- Divisor and multiple have the product of the two integers, up to its sign. -/
theorem commonDivisor_mul_commonMultiple (left right : Int) :
    commonDivisor left right * commonMultiple left right = |left * right| := by
  rw [commonDivisor_eq_gcd, commonMultiple_eq_lcm, ← Int.natCast_natAbs, Int.natAbs_mul]
  exact_mod_cast Int.gcd_mul_lcm left right

end Divisors

namespace Ratio

variable {numer denom : Int}

/-- A ratio in lowest terms is its own reduction. -/
theorem LowestTerms.reduced_eq {r : Ratio} (hlowest : r.LowestTerms) :
    reduced r.numer r.denom = .ok r := by
  rw [Ratio.reduced_eq hlowest.defined]
  exact congrArg Except.ok hlowest.eq_ofValue.symm

/-- A common factor above and below the line does not change what is reduced to. -/
theorem reduced_mul_mul {k : Int} (hk : k ≠ 0) (hdenom : denom ≠ 0) :
    reduced (k * numer) (k * denom) = reduced numer denom := by
  have hcast : (k : Rat) ≠ 0 := Int.cast_ne_zero.mpr hk
  rw [reduced_eq (mul_ne_zero hk hdenom), reduced_eq hdenom]
  push_cast
  rw [mul_div_mul_left _ _ hcast]

/-- Common divisors, common multiples and reduction are right for integers of any sign. Repeated
division of the sizes of two integers ends, at their greatest common divisor, which is zero for two
zeros only. The least common multiple goes with it: the product of the two is the size of that of
the integers. An integer above the line and another than zero below it are reduced by their
greatest common divisor with the sign of the one below. It goes into both without a rest, and what
is left is in lowest terms and has their value. Reducing that once more changes nothing, and
neither does a common factor in front. -/
theorem divisors_and_reduction_exact (left right numer denom : Int) :
    ((∃ passes ≤ right.natAbs,
        (∀ k < passes, (divisorPass^[k] (left.natAbs, right.natAbs)).2 ≠ 0) ∧
        divisorPass^[passes] (left.natAbs, right.natAbs) =
          ((commonDivisor left right).natAbs, 0)) ∧
      IsGreatestDivisor (commonDivisor left right) left right ∧
      (commonDivisor left right = 0 ↔ left = 0 ∧ right = 0) ∧
      IsLeastMultiple (commonMultiple left right) left right ∧
      commonDivisor left right * commonMultiple left right = |left * right|) ∧
    (denom ≠ 0 → ∃ r, reduced numer denom = .ok r ∧
      (∃ divisor, divisor.natAbs = commonDivisor numer denom ∧ (divisor < 0 ↔ denom < 0) ∧
        r = ⟨numer.fdiv divisor, denom.fdiv divisor⟩ ∧
        numer.fdiv divisor * divisor = numer ∧ denom.fdiv divisor * divisor = denom) ∧
      r.LowestTerms ∧ r.value = numer / denom ∧
      reduced r.numer r.denom = .ok r ∧
      ∀ k, k ≠ 0 → reduced (k * numer) (k * denom) = .ok r) := by
  have hgreatest := commonDivisor_isGreatestDivisor left right
  refine ⟨⟨exists_divisorPass_iterate _ _, hgreatest, hgreatest.eq_zero_iff,
    commonMultiple_isLeastMultiple left right, commonDivisor_mul_commonMultiple left right⟩,
    fun hdenom => ?_⟩
  obtain ⟨hlowest, hvalue⟩ := fdiv_signedDivisor_exact numer hdenom
  have hreduced := reduced_eq_fdiv numer hdenom
  refine ⟨_, hreduced, ⟨signedDivisor numer denom, ?_, ?_, rfl,
    fdiv_mul_signedDivisor (Int.gcd_dvd_left numer denom),
    fdiv_mul_signedDivisor (Int.gcd_dvd_right numer denom)⟩,
    hlowest, hvalue, hlowest.reduced_eq, fun k hk => ?_⟩
  · rw [natAbs_signedDivisor, commonDivisor_eq_gcd]
  · have hgcd : 0 < Int.gcd numer denom := Int.gcd_pos_of_ne_zero_right numer hdenom
    have hsize := natAbs_signedDivisor numer denom
    have hsign := signedDivisor_pos_iff numer hdenom
    omega
  · rw [reduced_mul_mul hk hdenom, hreduced]

/-- The greatest common divisor of 84 and minus 36 is where the repeated division of 84 and 36
ends. The quotient of the two is minus seven thirds, also with minus five in front of both. -/
theorem divisors_and_reduction_exact_sevenThirds :
    (∃ passes ≤ 36, divisorPass^[passes] (84, 36) = (12, 0)) ∧
    (commonDivisor 84 (-36) = 12 ∧ (6 : Int) ∣ commonDivisor 84 (-36)) ∧
    (commonMultiple 84 (-36) = 252 ∧ commonMultiple 84 (-36) ∣ 504) ∧
    (-36 : Int) ≠ 0 ∧ reduced 84 (-36) = .ok ⟨-7, 3⟩ ∧ reduced (-7) 3 = .ok ⟨-7, 3⟩ ∧
      (-5 : Int) ≠ 0 ∧ reduced (-5 * 84) (-5 * -36) = .ok ⟨-7, 3⟩ := by
  have hdivisor : commonDivisor 84 (-36) = 12 := by decide +kernel
  have hr : reduced 84 (-36) = .ok ⟨-7, 3⟩ := by decide +kernel
  obtain ⟨⟨⟨passes, hpasses, _, hend⟩, hgreatest, _, hleast, _⟩, hreduces⟩ :=
    divisors_and_reduction_exact 84 (-36) 84 (-36)
  obtain ⟨r, hreduced, _, _, _, hagain, hfactor⟩ := hreduces (by decide)
  obtain rfl : r = ⟨-7, 3⟩ := Except.ok.inj (hreduced.symm.trans hr)
  rw [hdivisor] at hend
  exact ⟨⟨passes, hpasses, hend⟩, ⟨hdivisor, hgreatest.greatest 6 (by decide) (by decide)⟩,
    ⟨by decide +kernel, hleast.least 504 (by decide) (by decide)⟩,
    by decide, hr, hagain, by decide, hfactor (-5) (by decide)⟩

end Ratio

end Polyphony
