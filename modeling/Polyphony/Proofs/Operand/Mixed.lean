import Polyphony.Operand.Arithmetic

/-!
# Ratios among integers

An operation on two operands, one of which is a ratio and the other a ratio or an integer, is the
operation on the ratios that they count as.
-/

namespace Polyphony.Operand

/-- The operand is a ratio. -/
def isRatio : Operand → Bool
  | ratio _ => true
  | datum _ => false

variable {a b : Operand} {l r : Ratio}

/-- Ratios count as themselves, and integers as ratios over one. -/
theorem ratio?_eq_some_iff :
    a.ratio? = some r ↔ a = ratio r ∨ ∃ k : Int, a = datum (.int k) ∧ r = .ofInt k := by
  constructor
  · intro hratio
    unfold ratio? at hratio
    split at hratio
    · exact .inl (congrArg ratio (Option.some.inj hratio))
    · exact .inr ⟨_, rfl, (Option.some.inj hratio).symm⟩
    · exact absurd hratio (by simp)
  · rintro (rfl | ⟨k, rfl, rfl⟩) <;> rfl

section Mixed

variable (hleft : a.ratio? = some l) (hright : b.ratio? = some r) (hmixed : a.isRatio || b.isRatio)
include hleft hright hmixed

/-- What an operation does with two ratios, and with a ratio and an integer on either side, it does
with the ratios that such operands count as. -/
theorem apply_mixed {α : Type} (onOperands : Operand → Operand → α) (onRatios : Ratio → Ratio → α)
    (hratios : ∀ l r, onOperands (ratio l) (ratio r) = onRatios l r)
    (hinteger : ∀ l m, onOperands (ratio l) (datum (.int m)) = onRatios l (.ofInt m))
    (hswapped : ∀ k r, onOperands (datum (.int k)) (ratio r) = onRatios (.ofInt k) r) :
    onOperands a b = onRatios l r := by
  rcases ratio?_eq_some_iff.mp hleft with rfl | ⟨k, rfl, rfl⟩
  · rcases ratio?_eq_some_iff.mp hright with rfl | ⟨m, rfl, rfl⟩
    · exact hratios l r
    · exact hinteger l m
  · rcases ratio?_eq_some_iff.mp hright with rfl | ⟨m, rfl, rfl⟩
    · exact hswapped k r
    · exact absurd hmixed (by simp [isRatio])

theorem add_mixed : a.add b = ratio <$> l.add r :=
  apply_mixed hleft hright hmixed add _ (fun _ _ => rfl) (fun _ _ => rfl) fun _ _ => rfl

theorem sub_mixed : a.sub b = ratio <$> l.sub r :=
  apply_mixed hleft hright hmixed sub _ (fun _ _ => rfl) (fun _ _ => rfl) fun _ _ => rfl

theorem mul_mixed : a.mul b = ratio <$> l.mul r :=
  apply_mixed hleft hright hmixed mul _ (fun _ _ => rfl) (fun _ _ => rfl) fun _ _ => rfl

theorem div_mixed : a.div b = ratio <$> l.div r :=
  apply_mixed hleft hright hmixed div _ (fun _ _ => rfl) (fun _ _ => rfl) fun _ _ => rfl

theorem eq_mixed : a.eq b = l.eq r :=
  apply_mixed hleft hright hmixed eq _ (fun _ _ => rfl) (fun _ _ => rfl) fun _ _ => rfl

theorem compareBy_mixed (test : Comparison) : compareBy test a b = ratioTest test l r :=
  apply_mixed hleft hright hmixed (compareBy test) _ (fun _ _ => rfl) (fun _ _ => rfl)
    fun _ _ => rfl

end Mixed

end Polyphony.Operand
