import Mathlib.Data.List.Forall2
import Polyphony.Journal.Recorded

/-!
# Computations that match

Two computations match when both have results, which are related, or both fail with faults of one
kind. Sequences of matching computations match, and so do lists worked through in step.
-/

namespace Polyphony

/-- Both computations have results, which are related, or both have faults, which are of one
kind. -/
def Matched {α β : Type} (R : α → β → Prop) : Except Fault α → Except Fault β → Prop
  | .ok a, .ok b => R a b
  | .error fault, .error fault' => fault.kind = fault'.kind
  | _, _ => False

namespace Matched

variable {α β γ δ : Type} {R : α → β → Prop} {S : γ → δ → Prop}

theorem of_ok {x : Except Fault α} {y : Except Fault β} {a : α} {b : β} (hx : x = .ok a)
    (hy : y = .ok b) (hrelated : R a b) : Matched R x y := by
  rw [hx, hy]
  exact hrelated

theorem of_error {x : Except Fault α} {y : Except Fault β} {fault fault' : Fault}
    (hx : x = .error fault) (hy : y = .error fault') (hkind : fault.kind = fault'.kind) :
    Matched R x y := by
  rw [hx, hy]
  exact hkind

theorem pure {a : α} {b : β} (hrelated : R a b) :
    Matched R (Pure.pure a : Except Fault α) (Pure.pure b : Except Fault β) := hrelated

/-- A computation matches itself. -/
theorem refl (x : Except Fault α) : Matched Eq x x := by
  cases x <;> rfl

theorem of_eq {x y : Except Fault α} (heq : x = y) : Matched Eq x y := heq ▸ refl x

theorem imp {x : Except Fault α} {y : Except Fault β} {S : α → β → Prop} (hmatched : Matched R x y)
    (himp : ∀ a b, R a b → S a b) : Matched S x y := by
  cases x <;> cases y <;> simp only [Matched] at hmatched ⊢
  · exact hmatched
  · exact himp _ _ hmatched

/-- Sequences match when their first parts do, and their second parts on related results. -/
theorem bind {x : Except Fault α} {y : Except Fault β} {f : α → Except Fault γ}
    {g : β → Except Fault δ} (hmatched : Matched R x y)
    (hnext : ∀ a b, R a b → Matched S (f a) (g b)) : Matched S (x >>= f) (y >>= g) := by
  cases x <;> cases y <;> simp only [Matched] at hmatched
  · exact hmatched
  · exact hnext _ _ hmatched

/-- Matching computations go on to match when their results are changed alike. -/
theorem map {x : Except Fault α} {y : Except Fault β} {f : α → γ} {g : β → δ}
    (hmatched : Matched R x y) (hstep : ∀ a b, R a b → S (f a) (g b)) :
    Matched S (f <$> x) (g <$> y) := by
  cases x <;> cases y <;> simp only [Matched] at hmatched
  · exact hmatched
  · exact hstep _ _ hmatched

/-- Related lists that are worked through in step match when their members do. -/
theorem mapM {f : α → Except Fault γ} {g : β → Except Fault δ} {xs : List α} {ys : List β}
    (hrelated : List.Forall₂ R xs ys) (hstep : ∀ x y, R x y → Matched S (f x) (g y)) :
    Matched (List.Forall₂ S) (xs.mapM f) (ys.mapM g) := by
  induction hrelated with
  | nil => exact .nil
  | cons hhead _ ih =>
    rw [List.mapM_cons, List.mapM_cons]
    exact (hstep _ _ hhead).bind fun _ _ hfirst => ih.bind fun _ _ hrest => .cons hfirst hrest

/-- A computation that matches one with a result has a related result. -/
theorem exists_ok {x : Except Fault α} {y : Except Fault β} {a : α} (hmatched : Matched R x y)
    (hx : x = .ok a) : ∃ b, y = .ok b ∧ R a b := by
  subst hx
  cases y with
  | error fault => exact hmatched.elim
  | ok b => exact ⟨b, rfl, hmatched⟩

end Matched

end Polyphony
