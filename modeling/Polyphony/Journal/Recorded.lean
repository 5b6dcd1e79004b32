import Polyphony.Fault

/-!
# Recorded computations

A computation that leaves entries in a journal and then has a result or a fault. What was entered
before a fault stays entered. Forgetting the journal turns a sequence of recorded computations into
the sequence of their results, so entries never influence results.
-/

namespace Polyphony

/-- The entries of a computation, in order, and its result or fault. -/
structure Recorded (ε α : Type) where
  /-- What was entered. -/
  entries : List ε
  /-- How it ended. -/
  result : Except Fault α

namespace Recorded

variable {ε α β γ : Type}

/-- A value without entries. -/
def value (a : α) : Recorded ε α := ⟨[], .ok a⟩

/-- A fault without entries. -/
def fail (fault : Fault) : Recorded ε α := ⟨[], .error fault⟩

/-- An outcome without entries. -/
def lift (outcome : Except Fault α) : Recorded ε α := ⟨[], outcome⟩

/-- One entry. -/
def enter (entry : ε) : Recorded ε Unit := ⟨[entry], .ok ()⟩

/-- One computation after another; a fault of the first leaves out the second. -/
def andThen (x : Recorded ε α) (f : α → Recorded ε β) : Recorded ε β :=
  match x.result with
  | .error fault => ⟨x.entries, .error fault⟩
  | .ok a =>
    let y := f a
    ⟨x.entries ++ y.entries, y.result⟩

/-- A computation with another one in the place of its fault. -/
def orElse (x : Recorded ε α) (f : Fault → Recorded ε α) : Recorded ε α :=
  match x.result with
  | .error fault =>
    let y := f fault
    ⟨x.entries ++ y.entries, y.result⟩
  | .ok _ => x

instance : Monad (Recorded ε) where
  pure := value
  bind := andThen

instance : MonadExceptOf Fault (Recorded ε) where
  throw := fail
  tryCatch := orElse

instance : MonadLift (Except Fault) (Recorded ε) := ⟨lift⟩

theorem pure_def (a : α) : (pure a : Recorded ε α) = ⟨[], .ok a⟩ := rfl

theorem bind_def (x : Recorded ε α) (f : α → Recorded ε β) : x >>= f = x.andThen f := rfl

@[simp] theorem entries_pure (a : α) : (pure a : Recorded ε α).entries = [] := rfl

@[simp] theorem result_pure (a : α) : (pure a : Recorded ε α).result = .ok a := rfl

@[simp] theorem entries_lift (outcome : Except Fault α) :
    (liftM outcome : Recorded ε α).entries = [] := rfl

@[simp] theorem result_lift (outcome : Except Fault α) :
    (liftM outcome : Recorded ε α).result = outcome := rfl

@[simp] theorem entries_enter (entry : ε) : (enter entry).entries = [entry] := rfl

@[simp] theorem result_enter (entry : ε) : (enter entry).result = .ok () := rfl

@[simp] theorem result_throw (fault : Fault) :
    (throw fault : Recorded ε α).result = .error fault := rfl

/-- A fault leaves out what follows. -/
@[simp] theorem throw_bind (fault : Fault) (f : α → Recorded ε β) :
    (throw fault : Recorded ε α) >>= f = throw fault := rfl

/-- Results follow each other as if nothing had been entered. -/
@[simp] theorem result_bind (x : Recorded ε α) (f : α → Recorded ε β) :
    (x >>= f).result = x.result >>= fun a => (f a).result := by
  obtain ⟨entries, outcome⟩ := x
  cases outcome <;> rfl

instance : LawfulMonad (Recorded ε) :=
  LawfulMonad.mk' (Recorded ε)
    (fun x => by
      obtain ⟨entries, outcome⟩ := x
      cases outcome <;> simp [Functor.map, andThen, value])
    (fun a f => by simp [pure_def, bind_def, andThen])
    (fun x f g => by
      obtain ⟨entries, outcome⟩ := x
      cases outcome with
      | error fault => rfl
      | ok a =>
        simp only [bind_def, andThen]
        cases (f a).result <;> simp)

end Recorded

end Polyphony
