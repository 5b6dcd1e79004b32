import Mathlib.Data.List.Forall2
import Polyphony.Proofs.Journal.Success

/-!
# Computations with consistent results

Two computations are consistent when their results are related, if both have one. A fault on one
side leaves the other side free. Sequences of consistent computations are consistent, and so are
lists worked through in step.
-/

namespace Polyphony

variable {α β γ δ : Type}

/-- If both computations have results, these are related. -/
def Consistent (R : α → β → Prop) (x : Except Fault α) (y : Except Fault β) : Prop :=
  ∀ a b, x = .ok a → y = .ok b → R a b

namespace Consistent

variable {R : α → β → Prop} {S : γ → δ → Prop}

theorem pure {a : α} {b : β} (hrelated : R a b) :
    Consistent R (Pure.pure a : Except Fault α) (Pure.pure b : Except Fault β) := by
  rintro _ _ ⟨⟩ ⟨⟩
  exact hrelated

/-- A computation has one result. -/
theorem refl (x : Except Fault α) : Consistent Eq x x := by
  intro a b ha hb
  exact Except.ok.inj (ha.symm.trans hb)

/-- Sequences are consistent when their first parts are, and their second parts on related
results. -/
theorem bind {x : Except Fault α} {y : Except Fault β} {f : α → Except Fault γ}
    {g : β → Except Fault δ} (hfirst : Consistent R x y)
    (hnext : ∀ a b, R a b → Consistent S (f a) (g b)) : Consistent S (x >>= f) (y >>= g) := by
  intro c d hc hd
  obtain ⟨a, ha, hlast⟩ := bind_eq_ok_iff.mp hc
  obtain ⟨b, hb, hlast'⟩ := bind_eq_ok_iff.mp hd
  exact hnext a b (hfirst a b ha hb) c d hlast hlast'

/-- Both second parts of one computation go on from one result. -/
theorem bind_same {x : Except Fault α} {f : α → Except Fault γ} {g : α → Except Fault δ}
    (hnext : ∀ a, Consistent S (f a) (g a)) : Consistent S (x >>= f) (x >>= g) := by
  refine (Consistent.refl x).bind ?_
  rintro a _ rfl
  exact hnext a

/-- Related lists that are worked through in step are consistent when their members are. -/
theorem mapM {f : α → Except Fault γ} {g : β → Except Fault δ} {xs : List α} {ys : List β}
    (hstep : ∀ x y, R x y → Consistent S (f x) (g y)) (hrelated : List.Forall₂ R xs ys) :
    Consistent (List.Forall₂ S) (xs.mapM f) (ys.mapM g) := by
  induction hrelated with
  | nil => exact .pure .nil
  | cons hhead _ ih =>
    rw [List.mapM_cons, List.mapM_cons]
    refine (hstep _ _ hhead).bind fun first first' hfirst => ?_
    exact ih.bind fun rest rest' hrest => .pure (.cons hfirst hrest)

end Consistent

end Polyphony
