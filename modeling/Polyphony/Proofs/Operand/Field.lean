import Polyphony.Proofs.Operand.Exact

/-!
# Laws of a field

The results of exact arithmetic obey the laws of a field as they are written: rearranged
calculations have one result, with the same integers above and below the line.
-/

namespace Polyphony.Operand

variable {operation : Operand → Operand → Except Fault Operand} {combine : Rat → Rat → Rat}
  {a b c : Operand} {x y z : Rat}

/-- An operation that computes a commutative combination of values is commutative. -/
theorem Computes.comm (hcomputes : Computes operation combine)
    (hcomm : ∀ x y, combine x y = combine y x) (ha : a.Denotes x) (hb : b.Denotes y) :
    Coincide (operation a b) (operation b a) := by
  have hswapped := hcomputes b a y x hb ha
  rw [Bool.or_comm, ← hcomm x y] at hswapped
  exact (hcomputes a b x y ha hb).coincide hswapped

/-- An operation that computes an associative combination of values is associative. -/
theorem Computes.assoc (hcomputes : Computes operation combine)
    (hassoc : ∀ x y z, combine (combine x y) z = combine x (combine y z)) (ha : a.Denotes x)
    (hb : b.Denotes y) (hc : c.Denotes z) :
    Coincide (do operation (← operation a b) c) (do operation a (← operation b c)) := by
  have hleft : Yields (operation a b >>= fun s => operation s c)
      (a.isRatio || b.isRatio || c.isRatio) (combine (combine x y) z) :=
    (hcomputes a b x y ha hb).bind fun s hs hform => hform ▸ hcomputes s c _ z hs hc
  have hright : Yields (operation b c >>= fun s => operation a s)
      (a.isRatio || (b.isRatio || c.isRatio)) (combine x (combine y z)) :=
    (hcomputes b c y z hb hc).bind fun s hs hform => hform ▸ hcomputes a s x _ ha hs
  rw [← Bool.or_assoc, ← hassoc x y z] at hright
  exact hleft.coincide hright

/-- Products distribute over sums. -/
theorem mul_add_of_denotes (ha : a.Denotes x) (hb : b.Denotes y) (hc : c.Denotes z) :
    Coincide (do a.mul (← b.add c)) (do (← a.mul b).add (← a.mul c)) := by
  have hleft : Yields (b.add c >>= fun s => a.mul s)
      (a.isRatio || (b.isRatio || c.isRatio)) (x * (y + z)) :=
    (add_computes b c y z hb hc).bind fun s hs hform => hform ▸ mul_computes a s x _ ha hs
  have hright : Yields (a.mul b >>= fun p => a.mul c >>= fun q => p.add q)
      ((a.isRatio || b.isRatio) || (a.isRatio || c.isRatio)) (x * y + x * z) :=
    (mul_computes a b x y ha hb).bind fun p hp hform =>
      (mul_computes a c x z ha hc).bind fun q hq hform' =>
        hform ▸ hform' ▸ add_computes p q _ _ hp hq
  have hform : ((a.isRatio || b.isRatio) || (a.isRatio || c.isRatio)) =
      (a.isRatio || (b.isRatio || c.isRatio)) := by
    cases a.isRatio <;> simp
  rw [hform, ← mul_add x y z] at hright
  exact hleft.coincide hright

/-- A difference and the subtrahend add up to the minuend, in the form of a result. -/
theorem sub_add_of_denotes (ha : a.Denotes x) (hb : b.Denotes y) :
    Yields (do (← a.sub b).add b) (a.isRatio || b.isRatio) x := by
  have hsum : Yields (a.sub b >>= fun d => d.add b) ((a.isRatio || b.isRatio) || b.isRatio)
      (x - y + y) :=
    (sub_computes a b x y ha hb).bind fun d hd hform => hform ▸ add_computes d b _ y hd hb
  rwa [sub_add_cancel, Bool.or_assoc, Bool.or_self] at hsum

/-- A quotient times the divisor is the dividend, in lowest terms. -/
theorem div_mul_of_denotes (ha : a.Denotes x) (hb : b.Denotes y) (hmixed : a.isRatio || b.isRatio)
    (hdivisor : y ≠ 0) : Yields (do (← a.div b).mul b) true x := by
  have hproduct : Yields (a.div b >>= fun q => q.mul b) (true || b.isRatio) (x / y * y) :=
    (div_of_denotes ha hb hmixed hdivisor).bind fun q hq hform =>
      hform ▸ mul_computes q b _ y hq hb
  rwa [div_mul_cancel₀ x hdivisor, Bool.true_or] at hproduct

/-- Of ratios in lowest terms, those that are equal by value are written in the same way. -/
theorem eq_of_lowestTerms {r s : Ratio} (hr : r.LowestTerms) (hs : s.LowestTerms) :
    (ratio r).eq (ratio s) = .ok (decide (r = s)) := by
  have hvalues : r = s ↔ r.value = s.value := ⟨congrArg Ratio.value, hr.eq_of_value hs⟩
  have heq : r.eq s = .ok (decide (r.value = s.value)) :=
    Ratio.eq_eq_ok_iff.mpr ⟨hr.defined, hs.defined, rfl⟩
  rw [decide_eq_decide.mpr hvalues]
  exact heq

/-- Arithmetic on ratios and integers, each with a value and written in any way, is exact. Sums,
differences and products have a result, negatives as well, and so have quotients of which one
operand is a ratio unless the divisor is zero. Where a ratio takes part the result is a ratio in
lowest terms, and of two such ratios the equal ones are written in the same way. So the laws of a
field hold of what is written. -/
theorem arithmetic_exact_and_canonical (ha : a.Denotes x) (hb : b.Denotes y) (hc : c.Denotes z) :
    Yields (a.add b) (a.isRatio || b.isRatio) (x + y) ∧
      Yields (a.sub b) (a.isRatio || b.isRatio) (x - y) ∧
      Yields (a.mul b) (a.isRatio || b.isRatio) (x * y) ∧
      Yields a.neg a.isRatio (-x) ∧
      ((a.isRatio || b.isRatio) → y ≠ 0 → Yields (a.div b) true (x / y)) ∧
      (y = 0 → DividesByZero (a.div b)) ∧
      (∀ r s : Ratio, r.LowestTerms → s.LowestTerms →
        (ratio r).eq (ratio s) = .ok (decide (r = s))) ∧
      Coincide (a.add b) (b.add a) ∧
      Coincide (a.mul b) (b.mul a) ∧
      Coincide (do (← a.add b).add c) (do a.add (← b.add c)) ∧
      Coincide (do (← a.mul b).mul c) (do a.mul (← b.mul c)) ∧
      Coincide (do a.mul (← b.add c)) (do (← a.mul b).add (← a.mul c)) ∧
      Yields (do (← a.sub b).add b) (a.isRatio || b.isRatio) x ∧
      ((a.isRatio || b.isRatio) → y ≠ 0 → Yields (do (← a.div b).mul b) true x) := by
  exact ⟨add_computes a b x y ha hb, sub_computes a b x y ha hb, mul_computes a b x y ha hb,
    neg_of_denotes ha, div_of_denotes ha hb, div_dividesByZero_of_denotes ha hb,
    fun r s => eq_of_lowestTerms,
    add_computes.comm add_comm ha hb, mul_computes.comm mul_comm ha hb,
    add_computes.assoc add_assoc ha hb hc, mul_computes.assoc mul_assoc ha hb hc,
    mul_add_of_denotes ha hb hc, sub_add_of_denotes ha hb, div_mul_of_denotes ha hb⟩

/-- Six over minus eight, five, and minus nine over minus twelve. -/
theorem arithmetic_exact_and_canonical_eighths :
    (ratio ⟨6, -8⟩).Denotes (-3 / 4) ∧ (datum (.int 5)).Denotes 5 ∧
      (ratio ⟨-9, -12⟩).Denotes (3 / 4) ∧
      Yields (div (ratio ⟨6, -8⟩) (datum (.int 5))) true (-3 / 4 / 5) ∧
      Yields (do mul (← div (ratio ⟨6, -8⟩) (datum (.int 5))) (datum (.int 5))) true (-3 / 4) ∧
      Coincide (do mul (ratio ⟨6, -8⟩) (← add (datum (.int 5)) (ratio ⟨-9, -12⟩)))
        (do
          let product ← mul (ratio ⟨6, -8⟩) (datum (.int 5))
          add product (← mul (ratio ⟨6, -8⟩) (ratio ⟨-9, -12⟩))) := by
  have ha : (ratio ⟨6, -8⟩).Denotes (-3 / 4) :=
    .of_value (by decide) (by norm_num [Ratio.value])
  have hb : (datum (.int 5)).Denotes 5 := .integer 5
  have hc : (ratio ⟨-9, -12⟩).Denotes (3 / 4) :=
    .of_value (by decide) (by norm_num [Ratio.value])
  obtain ⟨-, -, -, -, hdiv, -, -, -, -, -, -, hdistributes, -, hdivMul⟩ :=
    arithmetic_exact_and_canonical ha hb hc
  exact ⟨ha, hb, hc, hdiv rfl (by norm_num), hdivMul rfl (by norm_num), hdistributes⟩

end Polyphony.Operand
