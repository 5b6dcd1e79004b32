import Polyphony.Proofs.Ratio.Exact
import Polyphony.Ratio.Order

/-!
# Comparisons by value

A comparison of ratios asks that both have values and then answers as the values do, so it does
not depend on how the ratios are written. The larger of two ratios is one of them as written.
-/

namespace Polyphony.Ratio

variable {left right : Ratio}

theorem value?_eq_ok_iff {r : Ratio} {x : Rat} : r.value? = .ok x ↔ r.Defined ∧ x = r.value := by
  unfold value? Defined
  split
  case isTrue hzero => simp [hzero]
  case isFalse hne =>
    rw [pure_eq_ok_iff, eq_comm]
    simp only [ne_eq, hne, not_false_eq_true, true_and]

theorem compareBy_eq_ok_iff {test : Rat → Rat → Bool} {answer : Bool} :
    compareBy test left right = .ok answer ↔
      left.Defined ∧ right.Defined ∧ answer = test left.value right.value := by
  simp only [compareBy, bind_eq_ok_iff, value?_eq_ok_iff, pure_eq_ok_iff]
  constructor
  · rintro ⟨x, ⟨hleft, rfl⟩, y, ⟨hright, rfl⟩, rfl⟩
    exact ⟨hleft, hright, rfl⟩
  · rintro ⟨hleft, hright, rfl⟩
    exact ⟨_, ⟨hleft, rfl⟩, _, ⟨hright, rfl⟩, rfl⟩

theorem eq_eq_ok_iff {answer : Bool} :
    left.eq right = .ok answer ↔
      left.Defined ∧ right.Defined ∧ answer = decide (left.value = right.value) :=
  compareBy_eq_ok_iff

theorem lt_eq_ok_iff {answer : Bool} :
    left.lt right = .ok answer ↔
      left.Defined ∧ right.Defined ∧ answer = decide (left.value < right.value) :=
  compareBy_eq_ok_iff

theorem le_eq_ok_iff {answer : Bool} :
    left.le right = .ok answer ↔
      left.Defined ∧ right.Defined ∧ answer = decide (left.value ≤ right.value) :=
  compareBy_eq_ok_iff

theorem gt_eq_ok_iff {answer : Bool} :
    left.gt right = .ok answer ↔
      left.Defined ∧ right.Defined ∧ answer = decide (right.value < left.value) :=
  compareBy_eq_ok_iff

/-- The right one is the larger only when its value is above the left one's. -/
theorem max_eq_ok_iff {larger : Ratio} :
    left.max right = .ok larger ↔
      left.Defined ∧ right.Defined ∧
        larger = if left.value < right.value then right else left := by
  simp only [Ratio.max, bind_eq_ok_iff, gt_eq_ok_iff, pure_eq_ok_iff]
  constructor
  · rintro ⟨answer, ⟨hright, hleft, rfl⟩, rfl⟩
    exact ⟨hleft, hright, by simp only [decide_eq_true_eq]⟩
  · rintro ⟨hleft, hright, rfl⟩
    exact ⟨_, ⟨hright, hleft, rfl⟩, by simp only [decide_eq_true_eq]⟩

/-- The larger ratio has the larger value. -/
theorem value_larger (left right : Ratio) :
    (if left.value < right.value then right else left).value = left.value ⊔ right.value := by
  rw [apply_ite value, max_def_lt]

/-- The larger of two ratios that have values, as it is written; of equal ones, the left. -/
def larger (left right : Ratio) : Ratio := if left.value < right.value then right else left

end Polyphony.Ratio
