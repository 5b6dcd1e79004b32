import Polyphony.Proofs.Operand.Mixed
import Polyphony.Proofs.Ratio.Faults

/-!
# Operands without a value

A ratio with zero below the line makes every calculation and comparison divide by zero, on either
side and beside any ratio or integer, with one exception: as a divisor it is taken by what is above
its line, and the quotient is zero.
-/

namespace Polyphony.Operand

variable {left right : Operand} {l r : Ratio}

/-- Only a ratio can be without a value. -/
theorem isRatio_of_not_defined (hratio : left.ratio? = some l) (hundefined : ¬ l.Defined) :
    left.isRatio = true := by
  rcases ratio?_eq_some_iff.mp hratio with rfl | ⟨k, rfl, rfl⟩
  · rfl
  · exact absurd (Ratio.ofInt_defined k) hundefined

theorem ratioTest_dividesByZero_iff {test : Comparison} :
    DividesByZero (ratioTest test l r) ↔ ¬ (l.Defined ∧ r.Defined) := by
  cases test <;> exact Ratio.compareBy_dividesByZero_iff

theorem neg_dividesByZero (hratio : left.ratio? = some l) (hundefined : ¬ l.Defined) :
    DividesByZero left.neg := by
  rcases ratio?_eq_some_iff.mp hratio with rfl | ⟨k, rfl, rfl⟩
  · exact dividesByZero_map_iff.mpr (Ratio.neg_dividesByZero_iff.mpr hundefined)
  · exact absurd (Ratio.ofInt_defined k) hundefined

/-- Where one of two operands is a ratio without a value, sums, differences, products and all
comparisons divide by zero, and so does the negative of that operand. A quotient divides by zero
unless its dividend has a value and its divisor has another integer than zero above the line; then
the divisor is the operand without a value, and the quotient is zero. -/
theorem undefined_divides_by_zero (hleft : left.ratio? = some l) (hright : right.ratio? = some r)
    (hundefined : ¬ l.Defined ∨ ¬ r.Defined) :
    DividesByZero (left.add right) ∧ DividesByZero (left.sub right) ∧
      DividesByZero (left.mul right) ∧ DividesByZero (left.eq right) ∧
      (∀ test, DividesByZero (compareBy test left right)) ∧
      (¬ l.Defined → DividesByZero left.neg) ∧ (¬ r.Defined → DividesByZero right.neg) ∧
      (¬ (l.Defined ∧ r.numer ≠ 0) → DividesByZero (left.div right)) ∧
      (l.Defined ∧ r.numer ≠ 0 → ¬ r.Defined ∧ left.div right = .ok (ratio .zero)) := by
  have hmixed : left.isRatio || right.isRatio := by
    rcases hundefined with hl | hr
    · exact Bool.or_eq_true_iff.mpr (.inl (isRatio_of_not_defined hleft hl))
    · exact Bool.or_eq_true_iff.mpr (.inr (isRatio_of_not_defined hright hr))
  have hnone : ¬ (l.Defined ∧ r.Defined) := not_and_or.mpr hundefined
  have hdiv : left.div right = ratio <$> l.div r := div_mixed hleft hright hmixed
  rw [add_mixed hleft hright hmixed, sub_mixed hleft hright hmixed, mul_mixed hleft hright hmixed,
    eq_mixed hleft hright hmixed, hdiv]
  simp only [dividesByZero_map_iff]
  refine ⟨Ratio.add_dividesByZero_iff.mpr hnone, Ratio.sub_dividesByZero_iff.mpr hnone,
    Ratio.mul_dividesByZero_iff.mpr hnone, Ratio.compareBy_dividesByZero_iff.mpr hnone, ?tests,
    neg_dividesByZero hleft, neg_dividesByZero hright, Ratio.div_dividesByZero_iff.mpr, ?divisor⟩
  case tests =>
    intro test
    rw [compareBy_mixed hleft hright hmixed]
    exact ratioTest_dividesByZero_iff.mpr hnone
  case divisor =>
    rintro ⟨hdefined, hnumer⟩
    have hbelow : r.denom = 0 := by
      by_contra hne
      exact hnone ⟨hdefined, hne⟩
    have hvalue : l.value / r.value = 0 := by simp [Ratio.value, hbelow]
    have hquotient : l.div r = .ok (.ofValue 0) :=
      Ratio.div_eq_ok_iff.mpr ⟨hdefined, hnumer, by rw [hvalue]⟩
    refine ⟨not_not_intro hbelow, ?_⟩
    rw [hquotient]
    rfl

/-- Minus seven over zero beside an integer, as the dividend. -/
theorem undefined_divides_by_zero_sevenths :
    (ratio ⟨-7, 0⟩).ratio? = some ⟨-7, 0⟩ ∧ (datum (.int 4)).ratio? = some ⟨4, 1⟩ ∧
      ¬ Ratio.Defined ⟨-7, 0⟩ ∧ DividesByZero ((ratio ⟨-7, 0⟩).sub (datum (.int 4))) ∧
      DividesByZero ((ratio ⟨-7, 0⟩).div (datum (.int 4))) := by
  have hleft : (ratio ⟨-7, 0⟩).ratio? = some ⟨-7, 0⟩ := rfl
  have hright : (datum (.int 4)).ratio? = some ⟨4, 1⟩ := rfl
  have hundefined : ¬ Ratio.Defined ⟨-7, 0⟩ := by decide
  obtain ⟨-, hsub, -, -, -, -, -, hdiv, -⟩ :=
    undefined_divides_by_zero hleft hright (.inl hundefined)
  exact ⟨hleft, hright, hundefined, hsub, hdiv fun ⟨hdefined, _⟩ => hundefined hdefined⟩

/-- A half divided by five over zero is zero. -/
theorem half_by_undefined :
    ¬ Ratio.Defined ⟨5, 0⟩ ∧ div (ratio ⟨1, 2⟩) (ratio ⟨5, 0⟩) = .ok (ratio ⟨0, 1⟩) ∧
      ¬ DividesByZero (div (ratio ⟨1, 2⟩) (ratio ⟨5, 0⟩)) := by
  have hquotient : div (ratio ⟨1, 2⟩) (ratio ⟨5, 0⟩) = .ok (ratio ⟨0, 1⟩) := by decide +kernel
  refine ⟨by decide, hquotient, ?_⟩
  rintro ⟨fault, hfault, _⟩
  rw [hquotient] at hfault
  contradiction

end Polyphony.Operand
