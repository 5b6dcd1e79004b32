import Mathlib.Algebra.Order.Field.Basic
import Mathlib.Algebra.Order.Ring.Rat
import Mathlib.Order.Compare
import Polyphony.Operand.Hash
import Polyphony.Proofs.Operand.Exact

/-!
# The order of a field

Comparisons of ratios and integers answer as their exact values compare, and arithmetic computes
exact values. So the answers form a linear order that fits sums, products and quotients.
-/

namespace Polyphony.Operand

/-- The tests answer as one ordering does: of below, equal and above exactly the one holds that the
ordering is, and the other two tests agree with these. -/
structure ComparesAs (a b : Operand) (ordering : Ordering) : Prop where
  lt : a.lt b = .ok ordering.isLT
  eq : a.eq b = .ok ordering.isEq
  gt : a.gt b = .ok ordering.isGT
  le : a.le b = .ok (ordering.isLT || ordering.isEq)
  ge : a.ge b = .ok (ordering.isGT || ordering.isEq)

/-- Compares two operands after an operation with a third one on both. -/
def ltAfter (operation : Operand → Operand → Except Fault Operand) (c a b : Operand) :
    Except Fault Bool := do
  (← operation a c).lt (← operation b c)

section Answers

variable {x y : Rat}

theorem isLT_compare : (compare x y).isLT = decide (x < y) := by
  rw [Bool.eq_iff_iff, Ordering.isLT_iff_eq_lt, compare_lt_iff_lt, decide_eq_true_iff]

theorem isLE_compare : (compare x y).isLE = decide (x ≤ y) := by
  rw [Bool.eq_iff_iff, Ordering.isLE_iff_ne_gt, ← ne_eq, compare_le_iff_le, decide_eq_true_iff]

theorem isGT_compare : (compare x y).isGT = decide (y < x) := by
  rw [Bool.eq_iff_iff, Ordering.isGT_iff_eq_gt, compare_gt_iff_gt, decide_eq_true_iff]

theorem isGE_compare : (compare x y).isGE = decide (y ≤ x) := by
  rw [Bool.eq_iff_iff, Ordering.isGE_iff_ne_lt, ← ne_eq, compare_ge_iff_ge, decide_eq_true_iff]

theorem isEq_compare : (compare x y).isEq = decide (x = y) := by
  rw [Bool.eq_iff_iff, Ordering.isEq_iff_eq_eq, compare_eq_iff_eq, decide_eq_true_iff]

/-- Integers compare as values do. -/
theorem compare_intCast (k m : Int) : compare (k : Rat) (m : Rat) = compare k m := by
  rw [← cmp_eq_compare, ← cmp_eq_compare, Int.cast_strictMono.cmp_map_eq]

/-- Ratios that have values are tested by them. -/
theorem ratioTest_of_defined {l r : Ratio} (hleft : l.Defined) (hright : r.Defined)
    (test : Comparison) :
    ratioTest test l r = .ok (test.holds (some (compare l.value r.value))) := by
  cases test with
  | lt => exact Ratio.compareBy_eq_ok_iff.mpr ⟨hleft, hright, isLT_compare⟩
  | le => exact Ratio.compareBy_eq_ok_iff.mpr ⟨hleft, hright, isLE_compare⟩
  | gt => exact Ratio.compareBy_eq_ok_iff.mpr ⟨hleft, hright, isGT_compare⟩
  | ge => exact Ratio.compareBy_eq_ok_iff.mpr ⟨hleft, hright, isGE_compare⟩

end Answers

namespace Denotes

variable {a b c : Operand} {x y z : Rat}

/-- Every test answers as the values compare. -/
theorem compareBy (ha : a.Denotes x) (hb : b.Denotes y) (test : Comparison) :
    compareBy test a b = .ok (test.holds (some (compare x y))) := by
  cases ha.paired hb with
  | mixed hl hr hleft hright hform =>
    rw [compareBy_mixed hl hr hform, ratioTest_of_defined hleft hright]
  | integers k m =>
    rw [compare_intCast]
    rfl

theorem lt (ha : a.Denotes x) (hb : b.Denotes y) : a.lt b = .ok (decide (x < y)) := by
  rw [← isLT_compare]
  exact ha.compareBy hb .lt

theorem gt (ha : a.Denotes x) (hb : b.Denotes y) : a.gt b = .ok (decide (y < x)) := by
  rw [← isGT_compare]
  exact ha.compareBy hb .gt

theorem eq (ha : a.Denotes x) (hb : b.Denotes y) : a.eq b = .ok (decide (x = y)) := by
  cases ha.paired hb with
  | mixed hl hr hleft hright hform =>
    rw [eq_mixed hl hr hform]
    exact Ratio.eq_eq_ok_iff.mpr ⟨hleft, hright, rfl⟩
  | integers k m =>
    rw [← isEq_compare, compare_intCast]
    change Except.ok (decide (some (compare k m) = some Ordering.eq)) = _
    cases compare k m <;> rfl

theorem lt_iff (ha : a.Denotes x) (hb : b.Denotes y) : a.lt b = .ok true ↔ x < y := by
  rw [ha.lt hb, Except.ok.injEq, decide_eq_true_iff]

theorem gt_iff (ha : a.Denotes x) (hb : b.Denotes y) : a.gt b = .ok true ↔ y < x := by
  rw [ha.gt hb, Except.ok.injEq, decide_eq_true_iff]

theorem eq_iff (ha : a.Denotes x) (hb : b.Denotes y) : a.eq b = .ok true ↔ x = y := by
  rw [ha.eq hb, Except.ok.injEq, decide_eq_true_iff]

theorem comparesAs (ha : a.Denotes x) (hb : b.Denotes y) : ComparesAs a b (compare x y) where
  lt := ha.compareBy hb .lt
  eq := by rw [isEq_compare, ha.eq hb]
  gt := ha.compareBy hb .gt
  le := by
    have hle : a.le b = .ok (compare x y).isLE := ha.compareBy hb .le
    rw [hle]
    cases compare x y <;> rfl
  ge := by
    have hge : a.ge b = .ok (compare x y).isGE := ha.compareBy hb .ge
    rw [hge]
    cases compare x y <;> rfl

/-- The hash is the one of the value. -/
theorem hash (ha : a.Denotes x) : a.hash = .ok (.residue (valueHash x)) := by
  cases ha with
  | @ratio r hdefined =>
    rw [Operand.hash, Ratio.value?_eq_ok_iff.mpr ⟨hdefined, rfl⟩]
    rfl
  | integer k => rfl

end Denotes

variable {a b c : Operand} {x y z u v : Rat}

/-- What came out of a calculation is an operand with the value. -/
theorem Yields.exists_denotes {result : Except Fault Operand} {mixed : Bool}
    (hresult : Yields result mixed x) : ∃ s, result = .ok s ∧ s.Denotes x := by
  cases hresult with
  | ratio hlowest => exact ⟨_, rfl, .ratio hlowest.defined⟩
  | integer k => exact ⟨_, rfl, .integer k⟩

/-- After an operation the values of the results are compared. -/
theorem ltAfter_of_yields {operation : Operand → Operand → Except Fault Operand}
    {mixed mixed' : Bool} (hleft : Yields (operation a c) mixed u)
    (hright : Yields (operation b c) mixed' v) :
    ltAfter operation c a b = .ok (decide (u < v)) := by
  obtain ⟨s, hs, hu⟩ := hleft.exists_denotes
  obtain ⟨t, ht, hv⟩ := hright.exists_denotes
  have hcompared : ltAfter operation c a b = s.lt t := by
    rw [ltAfter, hs, ht]
    rfl
  rw [hcompared, hu.lt hv]

/-- A sum on both sides keeps the order. -/
theorem ltAfter_add (ha : a.Denotes x) (hb : b.Denotes y) (hc : c.Denotes z) :
    ltAfter add c a b = a.lt b := by
  rw [ltAfter_of_yields (add_computes a c x z ha hc) (add_computes b c y z hb hc), ha.lt hb,
    decide_eq_decide.mpr (add_lt_add_iff_right z)]

/-- Products with a positive operand keep the order. -/
theorem ltAfter_mul_of_pos (ha : a.Denotes x) (hb : b.Denotes y) (hc : c.Denotes z) (hz : 0 < z) :
    ltAfter mul c a b = a.lt b := by
  rw [ltAfter_of_yields (mul_computes a c x z ha hc) (mul_computes b c y z hb hc), ha.lt hb,
    decide_eq_decide.mpr (mul_lt_mul_iff_left₀ hz)]

/-- Products with a negative operand reverse the order. -/
theorem ltAfter_mul_of_neg (ha : a.Denotes x) (hb : b.Denotes y) (hc : c.Denotes z) (hz : z < 0) :
    ltAfter mul c a b = b.lt a := by
  rw [ltAfter_of_yields (mul_computes a c x z ha hc) (mul_computes b c y z hb hc), hb.lt ha,
    decide_eq_decide.mpr (mul_lt_mul_right_of_neg hz)]

section Quotients

variable (hleft : a.isRatio || c.isRatio) (hright : b.isRatio || c.isRatio)
include hleft hright

/-- Quotients by a positive operand keep the order. -/
theorem ltAfter_div_of_pos (ha : a.Denotes x) (hb : b.Denotes y) (hc : c.Denotes z) (hz : 0 < z) :
    ltAfter div c a b = a.lt b := by
  rw [ltAfter_of_yields (div_of_denotes ha hc hleft hz.ne') (div_of_denotes hb hc hright hz.ne'),
    ha.lt hb, decide_eq_decide.mpr (div_lt_div_iff_of_pos_right hz)]

/-- Quotients by a negative operand reverse the order. -/
theorem ltAfter_div_of_neg (ha : a.Denotes x) (hb : b.Denotes y) (hc : c.Denotes z) (hz : z < 0) :
    ltAfter div c a b = b.lt a := by
  rw [ltAfter_of_yields (div_of_denotes ha hc hleft hz.ne) (div_of_denotes hb hc hright hz.ne),
    hb.lt ha, decide_eq_decide.mpr (div_lt_div_right_of_neg hz)]

end Quotients

/-- Ratios and integers that have values, written in any way, form an ordered field. Their tests
answer as the values compare, equality is an equivalence that the order and the hashes respect, and
the order is transitive. It is kept by sums, kept by products with a positive operand and quotients
by one, and reversed by products with a negative operand and quotients by one. Every quotient has a
ratio in it, as quotients among integers alone are doubles. -/
theorem comparisons_form_ordered_field (ha : a.Denotes x) (hb : b.Denotes y) (hc : c.Denotes z) :
    ComparesAs a b (compare x y) ∧
      (a.eq a = .ok true ∧ b.eq a = a.eq b ∧
        (a.eq b = .ok true → b.eq c = .ok true → a.eq c = .ok true)) ∧
      (a.lt b = .ok true → b.lt c = .ok true → a.lt c = .ok true) ∧
      (a.eq b = .ok true → a.lt c = b.lt c ∧ c.lt a = c.lt b) ∧
      (a.eq b = .ok true → ∃ k, a.hash = .ok (.residue k) ∧ b.hash = .ok (.residue k)) ∧
      ltAfter add c a b = a.lt b ∧
      (c.gt (datum (.int 0)) = .ok true → ltAfter mul c a b = a.lt b ∧
        ((a.isRatio || c.isRatio) → (b.isRatio || c.isRatio) → ltAfter div c a b = a.lt b)) ∧
      (c.lt (datum (.int 0)) = .ok true → ltAfter mul c a b = b.lt a ∧
        ((a.isRatio || c.isRatio) → (b.isRatio || c.isRatio) → ltAfter div c a b = b.lt a)) := by
  have hzero : (datum (.int 0)).Denotes 0 := .integer 0
  refine ⟨ha.comparesAs hb, ⟨(ha.eq_iff ha).mpr rfl, ?symm, ?trans⟩, ?lt_trans, ?compatible, ?hash,
    ltAfter_add ha hb hc, ?positive, ?negative⟩
  case symm => rw [hb.eq ha, ha.eq hb, decide_eq_decide.mpr eq_comm]
  case trans =>
    intro hab hbc
    have hxy : x = y := (ha.eq_iff hb).mp hab
    have hyz : y = z := (hb.eq_iff hc).mp hbc
    exact (ha.eq_iff hc).mpr (hxy.trans hyz)
  case lt_trans =>
    intro hab hbc
    have hxy : x < y := (ha.lt_iff hb).mp hab
    have hyz : y < z := (hb.lt_iff hc).mp hbc
    exact (ha.lt_iff hc).mpr (hxy.trans hyz)
  case compatible =>
    intro hab
    obtain rfl := (ha.eq_iff hb).mp hab
    exact ⟨by rw [ha.lt hc, hb.lt hc], by rw [hc.lt ha, hc.lt hb]⟩
  case hash =>
    intro hab
    obtain rfl := (ha.eq_iff hb).mp hab
    exact ⟨_, ha.hash, hb.hash⟩
  case positive =>
    intro hpositive
    have hz : 0 < z := (hc.gt_iff hzero).mp hpositive
    exact ⟨ltAfter_mul_of_pos ha hb hc hz,
      fun hleft hright => ltAfter_div_of_pos hleft hright ha hb hc hz⟩
  case negative =>
    intro hnegative
    have hz : z < 0 := (hc.lt_iff hzero).mp hnegative
    exact ⟨ltAfter_mul_of_neg ha hb hc hz,
      fun hleft hright => ltAfter_div_of_neg hleft hright ha hb hc hz⟩

/-- A value just below minus one, over a negative integer, beside minus one; both are multiplied and
divided by nine over minus six. -/
theorem comparisons_form_ordered_field_closeValues :
    (ratio ⟨10 ^ 17 + 1, -10 ^ 17⟩).Denotes (-(10 ^ 17 + 1) / 10 ^ 17) ∧
      (datum (.int (-1))).Denotes (-1) ∧ (ratio ⟨9, -6⟩).Denotes (-3 / 2) ∧
      lt (ratio ⟨9, -6⟩) (datum (.int 0)) = .ok true ∧
      ltAfter mul (ratio ⟨9, -6⟩) (ratio ⟨10 ^ 17 + 1, -10 ^ 17⟩) (datum (.int (-1))) =
        lt (datum (.int (-1))) (ratio ⟨10 ^ 17 + 1, -10 ^ 17⟩) ∧
      ltAfter div (ratio ⟨9, -6⟩) (ratio ⟨10 ^ 17 + 1, -10 ^ 17⟩) (datum (.int (-1))) =
        lt (datum (.int (-1))) (ratio ⟨10 ^ 17 + 1, -10 ^ 17⟩) := by
  have ha : (ratio ⟨10 ^ 17 + 1, -10 ^ 17⟩).Denotes (-(10 ^ 17 + 1) / 10 ^ 17) :=
    .of_value (by decide) (by norm_num [Ratio.value])
  have hb : (datum (.int (-1))).Denotes (-1) := .integer (-1)
  have hc : (ratio ⟨9, -6⟩).Denotes (-3 / 2) :=
    .of_value (by decide) (by norm_num [Ratio.value])
  have hnegative : lt (ratio ⟨9, -6⟩) (datum (.int 0)) = .ok true :=
    (hc.lt_iff (.integer 0)).mpr (by norm_num)
  obtain ⟨-, -, -, -, -, -, -, hreversed⟩ := comparisons_form_ordered_field ha hb hc
  obtain ⟨hmul, hdiv⟩ := hreversed hnegative
  exact ⟨ha, hb, hc, hnegative, hmul, hdiv rfl rfl⟩

end Polyphony.Operand
