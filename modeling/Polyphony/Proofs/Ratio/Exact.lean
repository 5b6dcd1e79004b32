import Mathlib.Data.Int.Cast.Field
import Mathlib.Data.Rat.Lemmas
import Mathlib.Tactic.FieldSimp
import Mathlib.Tactic.Ring
import Polyphony.Proofs.Journal.Success
import Polyphony.Ratio.Arithmetic

/-!
# Exactness of the arithmetic

Every operation on ratios computes the exact value of its result and writes it in lowest terms.
`Ratio.ofValue` is the one ratio in lowest terms of a value, so an operation is described fully by
the operands that it accepts and the value that it gives.
-/

namespace Polyphony

theorem divisorLoop_eq_gcd (left right : Nat) : divisorLoop left right = Nat.gcd left right := by
  induction left, right using divisorLoop.induct with
  | case1 left => simp [divisorLoop]
  | case2 left right hright ih =>
    rw [divisorLoop, if_neg hright, ih, Nat.gcd_comm left right, Nat.gcd_rec right left,
      Nat.gcd_comm]

theorem commonDivisor_eq_gcd (left right : Int) :
    commonDivisor left right = (Int.gcd left right : Int) := by
  rw [commonDivisor, divisorLoop_eq_gcd, Int.gcd_def]

theorem commonMultiple_eq_lcm (left right : Int) :
    commonMultiple left right = (Int.lcm left right : Int) := by
  unfold commonMultiple
  split
  case isTrue hzero => rcases hzero with rfl | rfl <;> simp
  case isFalse hne =>
    rw [commonDivisor_eq_gcd, Int.fdiv_eq_ediv_of_nonneg _ (Int.natCast_nonneg _), Int.natAbs_mul]
    rfl

namespace Ratio

/-- The ratio of a value in lowest terms. -/
def ofValue (x : Rat) : Ratio := ⟨x.num, x.den⟩

/-- A ratio is in lowest terms when the integer below the line is positive and shares no divisor
with the other. -/
def LowestTerms (r : Ratio) : Prop := 0 < r.denom ∧ Int.gcd r.numer r.denom = 1

@[simp] theorem value_ofValue (x : Rat) : (ofValue x).value = x := by
  simp [ofValue, value, Rat.num_div_den]

@[simp] theorem ofValue_defined (x : Rat) : (ofValue x).Defined := by
  simp [ofValue, Defined]

theorem ofValue_lowestTerms (x : Rat) : (ofValue x).LowestTerms := by
  refine ⟨?_, ?_⟩
  · simpa [ofValue] using x.pos
  · exact x.reduced

@[simp] theorem zero_defined : Ratio.zero.Defined := by decide

theorem ofInt_defined (k : Int) : (ofInt k).Defined := one_ne_zero

@[simp] theorem value_ofInt (k : Int) : (ofInt k).value = k := by simp [ofInt, value]

@[simp] theorem value_zero : Ratio.zero.value = 0 := by simp [Ratio.zero, value]

/-- Of a ratio with a value, only zero has zero above the line. -/
theorem Defined.numer_eq_zero_iff {r : Ratio} (hdefined : r.Defined) :
    r.numer = 0 ↔ r.value = 0 := by
  have hdenom : r.denom ≠ 0 := hdefined
  simp [value, div_eq_zero_iff, hdenom]

/-- A ratio of a value other than zero has no zero above the line. -/
theorem numer_ne_zero {r : Ratio} (hvalue : r.value ≠ 0) : r.numer ≠ 0 := by
  intro hzero
  apply hvalue
  rw [value, hzero, Int.cast_zero, zero_div]

theorem LowestTerms.defined {r : Ratio} (hlowest : r.LowestTerms) : r.Defined :=
  hlowest.1.ne'

/-- A ratio in lowest terms is the one of its value. -/
theorem LowestTerms.eq_ofValue {r : Ratio} (hlowest : r.LowestTerms) : r = ofValue r.value := by
  obtain ⟨hpos, hgcd⟩ := hlowest
  have hnumer : r.value.num = r.numer := Rat.num_div_eq_of_coprime hpos hgcd
  have hdenom : (r.value.den : Int) = r.denom := Rat.den_div_eq_of_coprime hpos hgcd
  rw [ofValue, hnumer, hdenom]

/-- Ratios in lowest terms with one value are one ratio. -/
theorem LowestTerms.eq_of_value {r s : Ratio} (hr : r.LowestTerms) (hs : s.LowestTerms)
    (hvalue : r.value = s.value) : r = s := by
  rw [hr.eq_ofValue, hs.eq_ofValue, hvalue]

section Reduction

variable {numer denom : Int}

/-- The divisor that reduction takes out: the greatest common one, with the sign of the integer
below the line. -/
def signedDivisor (numer denom : Int) : Int :=
  if denom < 0 then -commonDivisor numer denom else commonDivisor numer denom

theorem natAbs_signedDivisor (numer denom : Int) :
    (signedDivisor numer denom).natAbs = Int.gcd numer denom := by
  rw [signedDivisor, commonDivisor_eq_gcd]
  split <;> simp

theorem signedDivisor_pos_iff (numer : Int) (hdenom : denom ≠ 0) :
    0 < signedDivisor numer denom ↔ 0 < denom := by
  have hgcd : 0 < Int.gcd numer denom := Int.gcd_pos_of_ne_zero_right numer hdenom
  rw [signedDivisor, commonDivisor_eq_gcd]
  split <;> omega

/-- The divisor goes into whatever the greatest common one divides without a rest. -/
theorem fdiv_mul_signedDivisor {n : Int} (hn : (Int.gcd numer denom : Int) ∣ n) :
    n.fdiv (signedDivisor numer denom) * signedDivisor numer denom = n := by
  apply Int.fdiv_mul_cancel
  rwa [← Int.natAbs_dvd, natAbs_signedDivisor]

theorem reduced_eq_fdiv (numer : Int) (hdenom : denom ≠ 0) :
    reduced numer denom = .ok
      ⟨numer.fdiv (signedDivisor numer denom), denom.fdiv (signedDivisor numer denom)⟩ :=
  if_neg hdenom

/-- What is left of two integers without the divisor is in lowest terms and has their value. -/
theorem fdiv_signedDivisor_exact (numer : Int) (hdenom : denom ≠ 0) :
    LowestTerms ⟨numer.fdiv (signedDivisor numer denom), denom.fdiv (signedDivisor numer denom)⟩ ∧
      value ⟨numer.fdiv (signedDivisor numer denom), denom.fdiv (signedDivisor numer denom)⟩ =
        numer / denom := by
  have hgcd : 0 < Int.gcd numer denom := Int.gcd_pos_of_ne_zero_right numer hdenom
  have hsize := natAbs_signedDivisor numer denom
  have hsign := signedDivisor_pos_iff numer hdenom
  have hnumer := fdiv_mul_signedDivisor (Int.gcd_dvd_left numer denom)
  have hbelow := fdiv_mul_signedDivisor (Int.gcd_dvd_right numer denom)
  generalize signedDivisor numer denom = divisor at hsize hsign hnumer hbelow ⊢
  generalize numer.fdiv divisor = a at hnumer ⊢
  generalize denom.fdiv divisor = b at hbelow ⊢
  have hdivisor : divisor ≠ 0 := by omega
  refine ⟨⟨?_, ?_⟩, ?_⟩
  · rcases lt_or_gt_of_ne hdivisor with hneg | hpos
    · have hsame : b * divisor < 0 := by omega
      exact pos_of_mul_neg_left hsame hneg.le
    · have hsame : 0 < b * divisor := hbelow ▸ hsign.mp hpos
      exact pos_of_mul_pos_left hsame hpos.le
  · have hone : Int.gcd a b * divisor.natAbs = divisor.natAbs := by
      rw [← Int.gcd_mul_right, hnumer, hbelow, hsize]
    exact Nat.eq_of_mul_eq_mul_right (by omega) (hone.trans (Nat.one_mul _).symm)
  · have hcast : (divisor : Rat) ≠ 0 := Int.cast_ne_zero.mpr hdivisor
    rw [← hnumer, ← hbelow, value]
    push_cast
    rw [mul_div_mul_right _ _ hcast]

/-- Reduction keeps the value and writes it in lowest terms. -/
theorem reduced_eq (hdenom : denom ≠ 0) : reduced numer denom = .ok (ofValue (numer / denom)) := by
  obtain ⟨hlowest, hvalue⟩ := fdiv_signedDivisor_exact numer hdenom
  rw [reduced_eq_fdiv numer hdenom, hlowest.eq_ofValue, hvalue]

/-- Reduction asks only for an integer other than zero below the line. -/
theorem reduced_eq_ok_iff {r : Ratio} :
    reduced numer denom = .ok r ↔ denom ≠ 0 ∧ r = ofValue (numer / denom) := by
  by_cases hdenom : denom = 0
  · simp [reduced, hdenom]
  · simp [reduced_eq hdenom, hdenom, eq_comm]

end Reduction

/-- Over a common multiple, two fractions add up above the line. -/
theorem div_add_div_multiple {a b c d m : Int} (hb : b ≠ 0) (hd : d ≠ 0) (hbm : b ∣ m)
    (hdm : d ∣ m) (hm : m ≠ 0) :
    ((a * (m / b) + c * (m / d) : Int) : Rat) / m = (a : Rat) / b + (c : Rat) / d := by
  have hb' : (b : Rat) ≠ 0 := Int.cast_ne_zero.mpr hb
  have hd' : (d : Rat) ≠ 0 := Int.cast_ne_zero.mpr hd
  have hm' : (m : Rat) ≠ 0 := Int.cast_ne_zero.mpr hm
  push_cast [Int.cast_div hbm hb', Int.cast_div hdm hd']
  field_simp

/-- The sum of two ratios that have values is that of the values. -/
theorem add_eq_ok_iff {left right sum : Ratio} :
    left.add right = .ok sum ↔
      left.Defined ∧ right.Defined ∧ sum = ofValue (left.value + right.value) := by
  unfold add Defined
  simp only [commonMultiple_eq_lcm]
  by_cases hzero : left.denom = 0 ∨ right.denom = 0
  · have hlcm : (Int.lcm left.denom right.denom : Int) = 0 := by
      rcases hzero with hzero | hzero <;> simp [hzero]
    rw [if_pos hlcm]
    constructor
    · nofun
    · rintro ⟨hleft, hright, _⟩
      exact absurd hzero (by simp [hleft, hright])
  · obtain ⟨hleft, hright⟩ := not_or.mp hzero
    have hlcm : (Int.lcm left.denom right.denom : Int) ≠ 0 := by
      simp [Int.lcm_eq_zero_iff, hleft, hright]
    rw [if_neg hlcm, Int.fdiv_eq_ediv_of_dvd (Int.dvd_lcm_left ..),
      Int.fdiv_eq_ediv_of_dvd (Int.dvd_lcm_right ..), reduced_eq_ok_iff,
      div_add_div_multiple hleft hright (Int.dvd_lcm_left ..) (Int.dvd_lcm_right ..) hlcm]
    simp only [ne_eq, hleft, hright, hlcm, not_false_eq_true, true_and, value]

theorem neg_eq_ok_iff {r negative : Ratio} :
    r.neg = .ok negative ↔ r.Defined ∧ negative = ofValue (-r.value) := by
  rw [neg, reduced_eq_ok_iff, value]
  push_cast
  rw [neg_div]
  rfl

theorem sub_eq_ok_iff {left right difference : Ratio} :
    left.sub right = .ok difference ↔
      left.Defined ∧ right.Defined ∧ difference = ofValue (left.value - right.value) := by
  simp only [sub, bind_eq_ok_iff, neg_eq_ok_iff, add_eq_ok_iff, sub_eq_add_neg]
  constructor
  · rintro ⟨negative, ⟨hright, rfl⟩, hleft, _, rfl⟩
    exact ⟨hleft, hright, by rw [value_ofValue]⟩
  · rintro ⟨hleft, hright, rfl⟩
    exact ⟨_, ⟨hright, rfl⟩, hleft, ofValue_defined _, by rw [value_ofValue]⟩

theorem mul_eq_ok_iff {left right product : Ratio} :
    left.mul right = .ok product ↔
      left.Defined ∧ right.Defined ∧ product = ofValue (left.value * right.value) := by
  rw [mul, reduced_eq_ok_iff, mul_ne_zero_iff, and_assoc, value, value]
  push_cast
  rw [mul_div_mul_comm]
  rfl

/-- The quotient of two ratios. The divisor must have another integer than zero above the line, and
may have zero below it, which makes the quotient zero. -/
theorem div_eq_ok_iff {left right quotient : Ratio} :
    left.div right = .ok quotient ↔
      left.Defined ∧ right.numer ≠ 0 ∧ quotient = ofValue (left.value / right.value) := by
  unfold div
  by_cases hzero : right.numer = 0
  · simp [hzero]
  · rw [if_neg hzero, reduced_eq_ok_iff, mul_ne_zero_iff, and_assoc, value, value, div_div_div_eq]
    push_cast
    rfl

namespace Defined

variable {left right : Ratio}

theorem add_eq (hleft : left.Defined) (hright : right.Defined) :
    left.add right = .ok (.ofValue (left.value + right.value)) :=
  add_eq_ok_iff.mpr ⟨hleft, hright, rfl⟩

theorem sub_eq (hleft : left.Defined) (hright : right.Defined) :
    left.sub right = .ok (.ofValue (left.value - right.value)) :=
  sub_eq_ok_iff.mpr ⟨hleft, hright, rfl⟩

theorem mul_eq (hleft : left.Defined) (hright : right.Defined) :
    left.mul right = .ok (.ofValue (left.value * right.value)) :=
  mul_eq_ok_iff.mpr ⟨hleft, hright, rfl⟩

end Defined

end Ratio

end Polyphony
