import Polyphony.Proofs.Journal.Matched
import Polyphony.Proofs.Ratio.Comparison

/-!
# Spellings of a ratio

Ratios of one value may be spelled differently: not reduced, or with both signs turned. What is
calculated from them does not depend on the spelling, since every result is in lowest terms.
-/

namespace Polyphony.Ratio

/-- Both ratios have values, and one value. -/
structure Same (r s : Ratio) : Prop where
  /-- The first one has a value. -/
  left : r.Defined
  /-- The second one has a value. -/
  right : s.Defined
  /-- The values are equal. -/
  value : r.value = s.value

variable {r r' s s' : Ratio}

theorem Defined.same (hdefined : r.Defined) : r.Same r := ⟨hdefined, hdefined, rfl⟩

/-- Ratios compare as equal when they have one value. -/
theorem eq_iff_same : r.eq s = .ok true ↔ r.Same s := by
  rw [eq_eq_ok_iff, eq_comm, decide_eq_true_eq]
  exact ⟨fun ⟨hr, hs, hvalue⟩ => ⟨hr, hs, hvalue⟩, fun h => ⟨h.left, h.right, h.value⟩⟩

/-- One ratio came out, and it has a value. -/
def Agree (r s : Ratio) : Prop := r = s ∧ r.Defined

theorem Agree.same (hagree : r.Agree s) : r.Same s := hagree.1 ▸ hagree.2.same

/-- Calculations of one value match, since what is calculated is in lowest terms. -/
theorem matched_of_value {x x' : Except Fault Ratio} {value value' : Rat}
    (hx : x = .ok (ofValue value)) (hx' : x' = .ok (ofValue value')) (hvalue : value = value') :
    Matched Agree x x' :=
  .of_ok hx hx' ⟨congrArg ofValue hvalue, ofValue_defined value⟩

namespace Same

/-- Sums do not depend on the spelling. -/
theorem add_matched (hr : r.Same r') (hs : s.Same s') : Matched Agree (r.add s) (r'.add s') := by
  refine matched_of_value (hr.left.add_eq hs.left) (hr.right.add_eq hs.right) ?_
  rw [hr.value, hs.value]

/-- Differences do not depend on the spelling. -/
theorem sub_matched (hr : r.Same r') (hs : s.Same s') : Matched Agree (r.sub s) (r'.sub s') := by
  refine matched_of_value (hr.left.sub_eq hs.left) (hr.right.sub_eq hs.right) ?_
  rw [hr.value, hs.value]

/-- Negatives do not depend on the spelling. -/
theorem neg_matched (hr : r.Same r') : Matched Agree r.neg r'.neg := by
  refine matched_of_value (neg_eq_ok_iff.mpr ⟨hr.left, rfl⟩) (neg_eq_ok_iff.mpr ⟨hr.right, rfl⟩) ?_
  rw [hr.value]

/-- Products do not depend on the spelling. -/
theorem mul_matched (hr : r.Same r') (hs : s.Same s') : Matched Agree (r.mul s) (r'.mul s') := by
  refine matched_of_value (hr.left.mul_eq hs.left) (hr.right.mul_eq hs.right) ?_
  rw [hr.value, hs.value]

/-- Quotients do not depend on the spelling. A divisor that is zero is blamed on the dividend as
spelled. -/
theorem div_matched (hr : r.Same r') (hs : s.Same s') : Matched Agree (r.div s) (r'.div s') := by
  have hzero : s.numer = 0 ↔ s'.numer = 0 := by
    rw [hs.left.numer_eq_zero_iff, hs.right.numer_eq_zero_iff, hs.value]
  by_cases hnumer : s.numer = 0
  · exact .of_error (if_pos hnumer) (if_pos (hzero.mp hnumer)) rfl
  · refine matched_of_value (div_eq_ok_iff.mpr ⟨hr.left, hnumer, rfl⟩)
      (div_eq_ok_iff.mpr ⟨hr.right, mt hzero.mpr hnumer, rfl⟩) ?_
    rw [hr.value, hs.value]

/-- The larger of two ratios has one value, whatever the spelling. -/
theorem larger (hr : r.Same r') (hs : s.Same s') : (r.larger s).Same (r'.larger s') := by
  simp only [Ratio.larger, hr.value, hs.value]
  split
  · exact hs
  · exact hr

/-- The larger of two ratios does not fail. -/
theorem max_matched (hr : r.Same r') (hs : s.Same s') : Matched Same (r.max s) (r'.max s') :=
  .of_ok (max_eq_ok_iff.mpr ⟨hr.left, hs.left, rfl⟩) (max_eq_ok_iff.mpr ⟨hr.right, hs.right, rfl⟩)
    (hr.larger hs)

/-- Comparisons do not depend on the spelling. -/
theorem compare_eq (hr : r.Same r') (hs : s.Same s') : r.eq s = r'.eq s' := by
  rw [eq_eq_ok_iff.mpr ⟨hr.left, hs.left, rfl⟩, eq_eq_ok_iff.mpr ⟨hr.right, hs.right, rfl⟩,
    hr.value, hs.value]

end Same

end Polyphony.Ratio
