import Polyphony.Fault

/-!
# Building in stages

What a document stands for is built from the outside in: first what stands on its own in a list or
mapping, and at a later stage what stands inside the lists and mappings in it. Of several faults the
one of the earliest stage counts, and of those the first.
-/

namespace Polyphony.Yaml

/-- A fault with the stage at which it comes to light. -/
structure Late where
  /-- The stage, counted from the present one. -/
  stage : Nat
  /-- The fault. -/
  fault : Fault

/-- What is built in stages. -/
abbrev Staged (α : Type) := Except Late α

namespace Staged

variable {α β : Type}

/-- What is built at the present stage. -/
def now (outcome : Except Fault α) : Staged α :=
  outcome.mapError fun fault => ⟨0, fault⟩

/-- What is built one stage later. -/
def later (x : Staged α) : Staged α :=
  x.mapError fun late => { late with stage := late.stage + 1 }

/-- Two things, the first before the second. -/
def both (x : Staged α) (y : Staged β) : Staged (α × β) :=
  match x, y with
  | .ok a, .ok b => .ok (a, b)
  | .error e, .error d => .error (if d.stage < e.stage then d else e)
  | .error e, .ok _ | .ok _, .error e => .error e

/-- Things one after another. -/
def all : List (Staged α) → Staged (List α)
  | [] => .ok []
  | x :: xs => (both x (all xs)).map fun (a, as) => a :: as

/-- What comes of it after all stages. -/
def outcome (x : Staged α) : Except Fault α :=
  x.mapError Late.fault

end Staged

end Polyphony.Yaml
