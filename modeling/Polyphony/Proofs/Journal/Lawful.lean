import Mathlib.Tactic.Choose
import Polyphony.Proofs.Journal.Success

/-!
# Computations in any monad

What is proved about a computation that calls other code should hold for whatever that code does. It
does when it is proved in every lawful monad whose faults leave out what follows: plain results,
recorded computations, and computations that change a state of their own before they fail.
-/

namespace Polyphony

/-- A lawful monad in which a fault leaves out what follows. -/
class LawfulFaults (m : Type → Type) [Monad m] [MonadExceptOf Fault m] : Prop
    extends LawfulMonad m where
  /-- What follows a fault is left out. -/
  throw_bind {α β : Type} (fault : Fault) (f : α → m β) :
    (throw fault : m α) >>= f = throw fault

instance : LawfulFaults (Except Fault) := ⟨fun _ _ => rfl⟩

instance {ε : Type} : LawfulFaults (Recorded ε) := ⟨fun _ _ => rfl⟩

instance {m : Type → Type} [Monad m] [LawfulMonad m] : LawfulFaults (ExceptT Fault m) :=
  ⟨fun _ _ => ExceptT.ext (by simp)⟩

/-- Whatever the computation returns is of a kind: it is a computation of values of that kind, with
the evidence forgotten. -/
def Returns {m : Type → Type} [Functor m] {α : Type} (kind : α → Prop) (x : m α) : Prop :=
  ∃ y : m { a // kind a }, Subtype.val <$> y = x

namespace Returns

variable {m : Type → Type} [Monad m] [LawfulMonad m] {α β : Type} {kind : α → Prop}

theorem pure {a : α} (ha : kind a) : Returns kind (Pure.pure a : m α) :=
  ⟨Pure.pure ⟨a, ha⟩, map_pure _ _⟩

/-- A fault returns nothing. -/
theorem throw {m : Type → Type} [Monad m] [MonadExceptOf Fault m] [LawfulFaults m]
    (fault : Fault) : Returns kind (MonadExcept.throw fault : m α) := by
  refine ⟨MonadExcept.throw fault, ?_⟩
  rw [map_eq_pure_bind]
  exact LawfulFaults.throw_bind fault _

/-- What comes last gives the kind. -/
theorem bind {x : m β} {f : β → m α} (hf : ∀ b, Returns kind (f b)) : Returns kind (x >>= f) := by
  choose y hy using hf
  refine ⟨x >>= y, ?_⟩
  rw [map_bind]
  exact bind_congr hy

/-- A sequence may rely on what its first part returns. -/
theorem bind_of {before : β → Prop} {x : m β} {f : β → m α} (hx : Returns before x)
    (hf : ∀ b, before b → Returns kind (f b)) : Returns kind (x >>= f) := by
  obtain ⟨y, rfl⟩ := hx
  rw [bind_map_left]
  exact bind fun b => hf b.val b.property

theorem imp {weaker : α → Prop} {x : m α} (hx : Returns kind x)
    (himp : ∀ a, kind a → weaker a) : Returns weaker x := by
  obtain ⟨y, rfl⟩ := hx
  refine ⟨(fun a => ⟨a.val, himp a.val a.property⟩) <$> y, ?_⟩
  rw [Functor.map_map]

end Returns

/-- What a recorded computation has for a result is of the kind that it returns. -/
theorem Recorded.of_result {ε α : Type} {kind : α → Prop} {x : Recorded ε α} {a : α}
    (hreturns : Returns kind x) (hresult : x.result = .ok a) : kind a := by
  obtain ⟨y, rfl⟩ := hreturns
  rw [Recorded.result_map, map_eq_ok_iff] at hresult
  obtain ⟨value, _, rfl⟩ := hresult
  exact value.property

end Polyphony
