import Polyphony.Proofs.Journal.Endings
import Polyphony.Proofs.Ratio.Comparison

/-!
# Faults of ratio arithmetic

Arithmetic on ratios and comparing them fail in one way only: they divide by zero. So each operation
divides by zero exactly where it has no result.
-/

namespace Polyphony

/-- The fault is a division by zero. -/
def Fault.IsDivision (fault : Fault) : Prop := fault.kind = .zeroDivision

/-- The computation has no result, because it divides by zero. -/
def DividesByZero {α : Type} (x : Except Fault α) : Prop :=
  ∃ fault, x = .error fault ∧ fault.IsDivision

section

variable {α β : Type} {x : Except Fault α}

/-- Where a division by zero is the only fault there can be, it is what a missing result comes
from. -/
theorem dividesByZero_iff (hanswers : Answers Fault.IsDivision x) :
    DividesByZero x ↔ ¬ ∃ a, x = .ok a := by
  cases x with
  | error fault =>
    have hnone : ¬ ∃ a, (Except.error fault : Except Fault α) = .ok a := by simp
    exact iff_of_true ⟨fault, rfl, hanswers⟩ hnone
  | ok a => exact iff_of_false (by simp [DividesByZero]) (not_not_intro ⟨a, rfl⟩)

/-- Changing the result does not matter where there is none. -/
theorem dividesByZero_map_iff {f : α → β} : DividesByZero (f <$> x) ↔ DividesByZero x := by
  cases x with
  | error fault => simp [DividesByZero, Functor.map, Except.map]
  | ok a => simp [DividesByZero, Functor.map, Except.map]

end

namespace Ratio

variable {left right r : Ratio}

theorem reduced_division (numer denom : Int) : Answers Fault.IsDivision (reduced numer denom) := by
  unfold reduced
  split
  · exact .throw rfl
  · exact .pure trivial

theorem add_division (left right : Ratio) : Answers Fault.IsDivision (left.add right) := by
  unfold add
  dsimp only
  split
  · exact .throw rfl
  · exact reduced_division _ _

theorem neg_division (r : Ratio) : Answers Fault.IsDivision r.neg := reduced_division _ _

theorem sub_division (left right : Ratio) : Answers Fault.IsDivision (left.sub right) :=
  (neg_division right).bind fun negative _ => add_division left negative

theorem mul_division (left right : Ratio) : Answers Fault.IsDivision (left.mul right) :=
  reduced_division _ _

theorem div_division (left right : Ratio) : Answers Fault.IsDivision (left.div right) := by
  unfold div
  split
  · exact .throw rfl
  · exact reduced_division _ _

theorem value?_division (r : Ratio) : Answers Fault.IsDivision r.value? := by
  unfold value?
  split
  · exact .throw rfl
  · exact .pure trivial

theorem compareBy_division (test : Rat → Rat → Bool) (left right : Ratio) :
    Answers Fault.IsDivision (compareBy test left right) :=
  (value?_division left).bind fun _ _ => (value?_division right).bind fun _ _ => .pure trivial

theorem add_dividesByZero_iff :
    DividesByZero (left.add right) ↔ ¬ (left.Defined ∧ right.Defined) := by
  simp [dividesByZero_iff (add_division left right), add_eq_ok_iff]

theorem neg_dividesByZero_iff : DividesByZero r.neg ↔ ¬ r.Defined := by
  simp [dividesByZero_iff (neg_division r), neg_eq_ok_iff]

theorem sub_dividesByZero_iff :
    DividesByZero (left.sub right) ↔ ¬ (left.Defined ∧ right.Defined) := by
  simp [dividesByZero_iff (sub_division left right), sub_eq_ok_iff]

theorem mul_dividesByZero_iff :
    DividesByZero (left.mul right) ↔ ¬ (left.Defined ∧ right.Defined) := by
  simp [dividesByZero_iff (mul_division left right), mul_eq_ok_iff]

/-- A quotient asks for a dividend that has a value and a divisor without zero above the line, and
nothing of what is below the line of the divisor. -/
theorem div_dividesByZero_iff :
    DividesByZero (left.div right) ↔ ¬ (left.Defined ∧ right.numer ≠ 0) := by
  simp [dividesByZero_iff (div_division left right), div_eq_ok_iff]

theorem compareBy_dividesByZero_iff {test : Rat → Rat → Bool} :
    DividesByZero (compareBy test left right) ↔ ¬ (left.Defined ∧ right.Defined) := by
  simp [dividesByZero_iff (compareBy_division test left right), compareBy_eq_ok_iff]

end Ratio

end Polyphony
