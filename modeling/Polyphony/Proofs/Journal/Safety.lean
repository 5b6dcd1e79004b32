import Polyphony.Proofs.Journal.Success

/-!
# Computations that are safe up to one fault

A computation that is safe up to a fault has a result or comes to that fault, and it may come to the
fault only where there is a risk of it. Safety goes through sequences and lists step by step.
-/

namespace Polyphony

/-- The computation has a result, unless it comes to the one fault, which takes the risk. -/
def SafeUpTo {α : Type} (risk : Prop) (fault : Fault) (x : Except Fault α) : Prop :=
  (∃ a, x = .ok a) ∨ risk ∧ x = .error fault

namespace SafeUpTo

variable {α β : Type} {risk : Prop} {fault : Fault}

theorem of_ok {x : Except Fault α} {a : α} (hok : x = .ok a) : SafeUpTo risk fault x :=
  .inl ⟨a, hok⟩

/-- What is safe at one risk is safe at a greater one. -/
theorem mono {greater : Prop} {x : Except Fault α} (hx : SafeUpTo risk fault x)
    (himp : risk → greater) : SafeUpTo greater fault x :=
  hx.imp_right (And.imp_left himp)

/-- A sequence is safe when its first part is, and its second part on each result of the first. -/
theorem bind {x : Except Fault α} {f : α → Except Fault β} (hx : SafeUpTo risk fault x)
    (hf : ∀ a, x = .ok a → SafeUpTo risk fault (f a)) : SafeUpTo risk fault (x >>= f) := by
  obtain ⟨a, rfl⟩ | ⟨hrisk, rfl⟩ := hx
  · exact hf a rfl
  · exact .inr ⟨hrisk, rfl⟩

/-- A result that is only made into another one is as safe as before. -/
theorem bind_pure {x : Except Fault α} {f : α → β} (hx : SafeUpTo risk fault x) :
    SafeUpTo risk fault (x >>= fun a => pure (f a)) :=
  hx.bind fun _ _ => of_ok rfl

/-- A first part with a known result leaves the second part on that result. -/
theorem step {x : Except Fault α} {f : α → Except Fault β} {a : α} (hx : x = .ok a)
    (hf : SafeUpTo risk fault (f a)) : SafeUpTo risk fault (x >>= f) := by
  rw [hx]
  exact hf

/-- Working through a list is safe when it is for each of its members. -/
theorem mapM {f : α → Except Fault β} {xs : List α}
    (hf : ∀ x ∈ xs, SafeUpTo risk fault (f x)) : SafeUpTo risk fault (xs.mapM f) := by
  induction xs with
  | nil => exact of_ok rfl
  | cons x xs ih =>
    obtain ⟨hx, hrest⟩ := List.forall_mem_cons.mp hf
    rw [List.mapM_cons]
    exact hx.bind fun y _ => (ih hrest).bind fun ys _ => of_ok rfl

end SafeUpTo

end Polyphony
