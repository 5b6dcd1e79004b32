import Polyphony.Proofs.Operand.Mixed
import Polyphony.Proofs.Ratio.Faults

/-!
# Exact arithmetic on operands

Arithmetic on ratios and integers computes exact values, and a result is written in one form: as a
ratio in lowest terms where a ratio takes part, and as an integer among integers. So two results are
the same as soon as their values are.
-/

namespace Polyphony.Operand

/-- The operand is an integer or a ratio that has a value, and this is the value. -/
inductive Denotes : Operand → Rat → Prop where
  /-- A ratio denotes its value, however it is written. -/
  | ratio {r : Ratio} (hdefined : r.Defined) : Denotes (ratio r) r.value
  /-- An integer denotes itself. -/
  | integer (k : Int) : Denotes (datum (.int k)) k

/-- A calculation yields a value, as a ratio in lowest terms or as an integer. -/
inductive Yields : Except Fault Operand → Bool → Rat → Prop where
  /-- A ratio in lowest terms came out. -/
  | ratio {r : Ratio} (hlowest : r.LowestTerms) : Yields (.ok (ratio r)) true r.value
  /-- An integer came out. -/
  | integer (k : Int) : Yields (.ok (datum (.int k))) false k

/-- Both calculations have a result, and it is written in the same way. -/
def Coincide (result result' : Except Fault Operand) : Prop :=
  ∃ s, result = .ok s ∧ result' = .ok s

/-- Two operands with values, in the kinds that an operation tells apart: ratios and integers of
which one is a ratio, taken as ratios, and two integers. -/
inductive Paired : Operand → Operand → Rat → Rat → Prop where
  /-- A ratio takes part. -/
  | mixed {a b : Operand} {l r : Ratio} (hl : a.ratio? = some l) (hr : b.ratio? = some r)
      (hleft : l.Defined) (hright : r.Defined) (hform : a.isRatio || b.isRatio) :
      Paired a b l.value r.value
  /-- Both are integers. -/
  | integers (k m : Int) : Paired (datum (.int k)) (datum (.int m)) k m

namespace Denotes

variable {a b : Operand} {x y : Rat}

theorem of_value {r : Ratio} (hdefined : r.Defined) (hvalue : r.value = x) :
    (Operand.ratio r).Denotes x := hvalue ▸ .ratio hdefined

theorem exists_ratio? (ha : a.Denotes x) :
    ∃ r, a.ratio? = some r ∧ r.Defined ∧ r.value = x := by
  cases ha with
  | ratio hdefined => exact ⟨_, rfl, hdefined, rfl⟩
  | integer k => exact ⟨_, rfl, Ratio.ofInt_defined k, Ratio.value_ofInt k⟩

/-- Two operands with values are of one of the two kinds of pairs. -/
theorem paired (ha : a.Denotes x) (hb : b.Denotes y) : Paired a b x y := by
  cases ha with
  | ratio hleft =>
    obtain ⟨r, hr, hright, rfl⟩ := hb.exists_ratio?
    exact .mixed rfl hr hleft hright rfl
  | integer k =>
    cases hb with
    | @ratio r hright =>
      have hpaired : Paired (datum (.int k)) (Operand.ratio r) (Ratio.ofInt k).value r.value :=
        .mixed rfl rfl (Ratio.ofInt_defined k) hright rfl
      rwa [Ratio.value_ofInt] at hpaired
    | integer m => exact .integers k m

end Denotes

namespace Yields

variable {result result' : Except Fault Operand} {mixed : Bool} {x y : Rat}

theorem ofValue (x : Rat) : Yields (.ok (.ratio (.ofValue x))) true x := by
  have hyields := ratio (Ratio.ofValue_lowestTerms x)
  rwa [Ratio.value_ofValue] at hyields

/-- In one form, results are the same exactly when they have one value. -/
theorem eq_iff (hresult : Yields result mixed x) (hresult' : Yields result' mixed y) :
    result = result' ↔ x = y := by
  cases hresult with
  | @ratio r hr =>
    cases hresult' with
    | @ratio s hs =>
      constructor
      · intro hsame
        rw [Operand.ratio.inj (Except.ok.inj hsame)]
      · intro hvalue
        rw [hr.eq_of_value hs hvalue]
  | integer k =>
    cases hresult' with
    | integer m => simp

/-- Calculations that yield one value in one form have one result. -/
theorem coincide (hresult : Yields result mixed x) (hresult' : Yields result' mixed x) :
    Coincide result result' := by
  have hsame : result' = result := (hresult'.eq_iff hresult).mpr rfl
  rw [hsame]
  cases hresult with
  | ratio _ => exact ⟨_, rfl, rfl⟩
  | integer _ => exact ⟨_, rfl, rfl⟩

/-- A result can be calculated with. -/
theorem bind {next : Operand → Except Fault Operand} {mixed' : Bool}
    (hresult : Yields result mixed x)
    (hnext : ∀ s, s.Denotes x → s.isRatio = mixed → Yields (next s) mixed' y) :
    Yields (result >>= next) mixed' y := by
  cases hresult with
  | ratio hlowest => exact hnext _ (.ratio hlowest.defined) rfl
  | integer k => exact hnext _ (.integer k) rfl

end Yields

/-- An operation computes the exact values of its results: a ratio where one takes part. -/
def Computes (operation : Operand → Operand → Except Fault Operand) (combine : Rat → Rat → Rat) :
    Prop :=
  ∀ (a b : Operand) (x y : Rat), a.Denotes x → b.Denotes y →
    Yields (operation a b) (a.isRatio || b.isRatio) (combine x y)

/-- An operation computes exactly when it does with ratios and with integers. -/
theorem Computes.of_mixed {operation : Operand → Operand → Except Fault Operand}
    {onRatios : Ratio → Ratio → Except Fault Ratio} {onIntegers : Int → Int → Int}
    {combine : Rat → Rat → Rat}
    (hmixed : ∀ {a b : Operand} {l r : Ratio}, a.ratio? = some l → b.ratio? = some r →
      (a.isRatio || b.isRatio) → operation a b = ratio <$> onRatios l r)
    (hratios : ∀ {l r : Ratio}, l.Defined → r.Defined →
      onRatios l r = .ok (.ofValue (combine l.value r.value)))
    (hintegers : ∀ k m : Int,
      operation (datum (.int k)) (datum (.int m)) = .ok (datum (.int (onIntegers k m))))
    (hcast : ∀ k m : Int, (onIntegers k m : Rat) = combine k m) :
    Computes operation combine := by
  intro a b x y ha hb
  cases ha.paired hb with
  | mixed hl hr hleft hright hform =>
    rw [hmixed hl hr hform, hratios hleft hright, hform]
    exact .ofValue _
  | integers k m =>
    rw [hintegers, ← hcast]
    exact .integer _

theorem add_computes : Computes add (· + ·) :=
  .of_mixed add_mixed Ratio.Defined.add_eq (fun _ _ => rfl) Int.cast_add

theorem sub_computes : Computes sub (· - ·) :=
  .of_mixed sub_mixed Ratio.Defined.sub_eq (fun _ _ => rfl) Int.cast_sub

theorem mul_computes : Computes mul (· * ·) :=
  .of_mixed mul_mixed Ratio.Defined.mul_eq (fun _ _ => rfl) Int.cast_mul

section

variable {a b : Operand} {x y : Rat}

/-- The negative has the form of the operand. -/
theorem neg_of_denotes (ha : a.Denotes x) : Yields a.neg a.isRatio (-x) := by
  cases ha with
  | @ratio r hdefined =>
    have hneg : (ratio r).neg = .ok (ratio (.ofValue (-r.value))) := by
      rw [neg, Ratio.neg_eq_ok_iff.mpr ⟨hdefined, rfl⟩]
      rfl
    rw [hneg]
    exact .ofValue _
  | integer k =>
    have hcast : ((-k : Int) : Rat) = -(k : Rat) := Int.cast_neg k
    rw [← hcast]
    exact .integer (-k)

/-- The quotient by a value other than zero, where a ratio takes part. -/
theorem div_of_denotes (ha : a.Denotes x) (hb : b.Denotes y) (hmixed : a.isRatio || b.isRatio)
    (hdivisor : y ≠ 0) : Yields (a.div b) true (x / y) := by
  obtain ⟨l, hl, hleft, rfl⟩ := ha.exists_ratio?
  obtain ⟨r, hr, _, rfl⟩ := hb.exists_ratio?
  have hquotient : l.div r = .ok (.ofValue (l.value / r.value)) :=
    Ratio.div_eq_ok_iff.mpr ⟨hleft, Ratio.numer_ne_zero hdivisor, rfl⟩
  rw [div_mixed hl hr hmixed, hquotient]
  exact .ofValue _

/-- Nothing is divided by an operand of value zero. -/
theorem div_dividesByZero_of_denotes (ha : a.Denotes x) (hb : b.Denotes y) (hzero : y = 0) :
    DividesByZero (a.div b) := by
  cases ha.paired hb with
  | @mixed _ _ l r hl hr hleft hright hform =>
    have hnumer : r.numer = 0 := hright.numer_eq_zero_iff.mpr hzero
    rw [div_mixed hl hr hform, dividesByZero_map_iff, Ratio.div_dividesByZero_iff]
    exact fun ⟨_, hne⟩ => hne hnumer
  | integers k m =>
    -- Among integers the quotient is a double, of the ratio that the two integers make.
    obtain rfl : m = 0 := Int.cast_eq_zero.mp hzero
    exact ⟨.undefinedDouble, rfl, rfl⟩

end

end Polyphony.Operand
