import Polyphony.Music.Fold
import Polyphony.Proofs.Journal.Lawful

/-!
# The fold by tasks

The fold that works through a list of tasks gives what the fold by recursion gives, whatever the
handlers do, in every monad whose faults leave out what follows. Each piece on the list is folded
into one result for the tasks after it. For the measure, this gives one equation for each kind of
node.
-/

namespace Polyphony

namespace Fold

variable {m : Type → Type} [Monad m] [MonadExceptOf Fault m] [LawfulFaults m] {α β : Type}

/-- Visiting a piece folds it and goes on with its result on top of those before it. -/
theorem run_visit (fold : Fold m α β) (piece : Music α) (tasks : List (Task α))
    (results : List β) :
    fold.run (.visit piece :: tasks) results =
      fold.collapse piece >>= fun result => fold.run tasks (result :: results) := by
  induction piece generalizing tasks results with
  | prim primitive => rw [run, collapse]
  | seq left right ihleft ihright =>
    rw [run, ihleft, collapse, bind_assoc]
    refine bind_congr fun l => ?_
    rw [ihright, bind_assoc]
    exact bind_congr fun r => by rw [run]
  | par left right ihleft ihright =>
    rw [run, ihleft, collapse, bind_assoc]
    refine bind_congr fun l => ?_
    rw [ihright, bind_assoc]
    exact bind_congr fun r => by rw [run]
  | modify control body ih =>
    rw [run, ih, collapse, bind_assoc]
    exact bind_congr fun b => by rw [run]
  | stray number => rw [run, collapse, LawfulFaults.throw_bind]

/-- The fold by tasks is the fold by recursion. -/
theorem walk_eq_collapse (fold : Fold m α β) (piece : Music α) :
    fold.walk piece = fold.collapse piece := by
  rw [walk, run_visit]
  simp only [run, bind_pure]

end Fold

namespace Music

variable {α : Type}

section Measure

variable (left right body : Music α) (control : Control)

/-- The measure of a leaf. -/
theorem length_prim (primitive : Primitive α) :
    (prim primitive).length = .ok primitive.length := by
  rw [length, Fold.walk_eq_collapse]
  rfl

/-- The measure of a line. -/
theorem length_seq : (seq left right).length =
    left.length >>= fun l => right.length >>= fun r => l.add r := by
  simp only [length, Fold.walk_eq_collapse]
  rfl

/-- The measure of two pieces together. -/
theorem length_par : (par left right).length =
    left.length >>= fun l => right.length >>= fun r => l.max r := by
  simp only [length, Fold.walk_eq_collapse]
  rfl

/-- The measure of a piece under a control. -/
theorem length_modify :
    (modify control body).length = body.length >>= (measure (α := α)).onModify control := by
  simp only [length, Fold.walk_eq_collapse]
  rfl

/-- A number in the place of a piece has no measure. -/
theorem length_stray (number : Int) :
    (stray number : Music α).length = .error (.strayPiece number) := by
  rw [length, Fold.walk_eq_collapse]
  rfl

end Measure

/-- Only tempos change the measure of their body. -/
theorem length_modify_of_ne_tempo {control : Control} (hother : ∀ ratio, control ≠ .tempo ratio)
    (body : Music α) : (modify control body).length = body.length := by
  have hpure : (measure (α := α)).onModify control = pure := by
    cases control with
    | tempo ratio => exact absurd rfl (hother ratio)
    | _ => rfl
  rw [length_modify, hpure, bind_pure]

end Music

end Polyphony
