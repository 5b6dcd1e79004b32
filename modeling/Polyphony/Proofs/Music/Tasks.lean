import Polyphony.Proofs.Music.Fold

/-!
# The tasks of a fold

Folding by tasks, one turn at a time. Whatever the handlers do, a piece is folded in a number of
turns that its tree alone fixes, and its result is left on top of those before it. Counting results
along the pending tasks shows that every task finds those that it takes.
-/

namespace Polyphony

/-- The turns that folding a piece takes when none of them fails: one for a leaf, two for any other
node. -/
def Music.visits {α : Type} : Music α → Nat
  | prim _ => 1
  | seq left right => left.visits + right.visits + 2
  | par left right => left.visits + right.visits + 2
  | modify _ body => body.visits + 2
  | stray _ => 1

namespace Fold

variable {m : Type → Type} [Monad m] [MonadExceptOf Fault m] {α β : Type}

/-- The results that a task takes from those left. -/
def Task.taken : Task α → Nat
  | visit _ => 0
  | seq => 2
  | par => 2
  | modify _ => 1

/-- With so many results left, each of the tasks finds what it takes, and one result is left in the
end. -/
def Supplied : List (Task α) → Nat → Prop
  | [], count => count = 1
  | task :: tasks, count => task.taken ≤ count ∧ Supplied tasks (count - task.taken + 1)

/-- The pending tasks, next one first, and the results of finished pieces, last one first. -/
structure State (α β : Type) where
  /-- What is still to be done. -/
  tasks : List (Task α)
  /-- What has been left and not yet taken. -/
  results : List β

namespace State

/-- The state that the fold of a piece starts from. -/
def initial (piece : Music α) : State α β := ⟨[.visit piece], []⟩

/-- The state with nothing to do and one result left. -/
def finished (result : β) : State α β := ⟨[], [result]⟩

/-- The next task finds the results that it takes; without a task, just one result is left. -/
def Served (state : State α β) : Prop :=
  match state.tasks with
  | [] => state.results.length = 1
  | task :: _ => task.taken ≤ state.results.length

/-- The results left are enough for the tasks. -/
def Supplied (state : State α β) : Prop := Fold.Supplied state.tasks state.results.length

/-- One turn of the fold. Without a task nothing happens. -/
def turn (fold : Fold m α β) : State α β → m (State α β)
  | ⟨[], results⟩ => return ⟨[], results⟩
  | ⟨.visit (.prim primitive) :: tasks, results⟩ => do
    let r ← fold.onPrim primitive
    return ⟨tasks, r :: results⟩
  | ⟨.visit (.seq left right) :: tasks, results⟩ =>
    return ⟨.visit left :: .visit right :: .seq :: tasks, results⟩
  | ⟨.visit (.par left right) :: tasks, results⟩ =>
    return ⟨.visit left :: .visit right :: .par :: tasks, results⟩
  | ⟨.visit (.modify control body) :: tasks, results⟩ =>
    return ⟨.visit body :: .modify control :: tasks, results⟩
  | ⟨.visit (.stray number) :: _, _⟩ => throw (.strayPiece number)
  | ⟨.seq :: tasks, right :: left :: results⟩ => do
    let r ← fold.onSeq left right
    return ⟨tasks, r :: results⟩
  | ⟨.par :: tasks, right :: left :: results⟩ => do
    let r ← fold.onPar left right
    return ⟨tasks, r :: results⟩
  | ⟨.modify control :: tasks, body :: results⟩ => do
    let r ← fold.onModify control body
    return ⟨tasks, r :: results⟩
  | ⟨_ :: _, _⟩ => throw .noResult

/-- A number of turns, ended by the first fault. -/
def advance (fold : Fold m α β) : Nat → State α β → m (State α β)
  | 0, state => return state
  | count + 1, state => do
    let next ← state.turn fold
    advance fold count next

/-- Works through the tasks that are left. -/
def finish (fold : Fold m α β) (state : State α β) : m β := run fold state.tasks state.results

theorem advance_succ (fold : Fold m α β) (count : Nat) (state : State α β) :
    state.advance fold (count + 1) = state.turn fold >>= State.advance fold count := rfl

theorem initial_supplied (piece : Music α) : (initial piece : State α β).Supplied :=
  ⟨Nat.zero_le _, rfl⟩

/-- A supplied state serves its next task. -/
theorem Supplied.served {state : State α β} (hsupplied : state.Supplied) : state.Served := by
  obtain ⟨tasks, results⟩ := state
  cases tasks with
  | nil => exact hsupplied
  | cons task tasks => exact hsupplied.1

variable [LawfulFaults m]

/-- Working through a state begins with its next turn. -/
theorem finish_turn (fold : Fold m α β) (state : State α β) :
    state.finish fold = state.turn fold >>= State.finish fold := by
  fun_cases turn fold state with
  | case1 results => simp [finish]
  | case2 primitive tasks results => simp [finish, run]
  | case3 left right tasks results => simp [finish, run]
  | case4 left right tasks results => simp [finish, run]
  | case5 control body tasks results => simp [finish, run]
  | case6 number tasks results => simp [finish, run, LawfulFaults.throw_bind]
  | case7 tasks right left results => simp [finish, run]
  | case8 tasks right left results => simp [finish, run]
  | case9 control tasks body results => simp [finish, run]
  | case10 => simp [finish, run, LawfulFaults.throw_bind]

/-- Working through a state may begin with any number of turns. -/
theorem finish_advance (fold : Fold m α β) (count : Nat) (state : State α β) :
    state.finish fold = state.advance fold count >>= State.finish fold := by
  induction count generalizing state with
  | zero => simp [advance]
  | succ count ih =>
    rw [finish_turn]
    simp only [advance, bind_assoc, ← ih]

/-- A piece on top of the tasks is folded in its number of turns, which leave its result and touch
nothing below. -/
theorem advance_visit (fold : Fold m α β) (piece : Music α) (tasks : List (Task α))
    (results : List β) (count : Nat) :
    advance fold (piece.visits + count) ⟨.visit piece :: tasks, results⟩ =
      fold.collapse piece >>= fun result => advance fold count ⟨tasks, result :: results⟩ := by
  induction piece generalizing tasks results count with
  | prim primitive =>
    rw [Music.visits, Nat.add_comm, advance_succ]
    simp [turn, collapse]
  | seq left right ihleft ihright =>
    -- Both parts are folded with tasks below them, so the induction is over all tasks and results.
    have hcount : (Music.seq left right).visits + count =
        left.visits + (right.visits + (count + 1)) + 1 := by simp only [Music.visits]; omega
    rw [hcount, advance_succ]
    simp [turn, ihleft, ihright, advance_succ, collapse]
  | par left right ihleft ihright =>
    have hcount : (Music.par left right).visits + count =
        left.visits + (right.visits + (count + 1)) + 1 := by simp only [Music.visits]; omega
    rw [hcount, advance_succ]
    simp [turn, ihleft, ihright, advance_succ, collapse]
  | modify control body ih =>
    have hcount : (Music.modify control body).visits + count =
        body.visits + (count + 1) + 1 := by simp only [Music.visits]; omega
    rw [hcount, advance_succ]
    simp [turn, ih, advance_succ, collapse]
  | stray number =>
    rw [Music.visits, Nat.add_comm, advance_succ]
    simp [turn, collapse, LawfulFaults.throw_bind]

/-- The number of turns of a piece leads from its initial state to the finished one. -/
theorem advance_initial (fold : Fold m α β) (piece : Music α) :
    (initial piece).advance fold piece.visits =
      fold.collapse piece >>= fun result => pure (finished result) := by
  simpa [initial, finished, advance] using advance_visit fold piece [] [] 0

/-- A turn keeps the supply. -/
theorem Supplied.turn {state : State α β} (hsupplied : state.Supplied) (fold : Fold m α β) :
    Returns Supplied (state.turn fold) := by
  fun_cases State.turn fold state with
  | case1 results => exact .pure hsupplied
  | case2 primitive tasks results => exact .bind fun r => .pure hsupplied.2
  | case3 left right tasks results =>
    exact .pure ⟨Nat.zero_le _, Nat.zero_le _, by simp [Task.taken], hsupplied.2⟩
  | case4 left right tasks results =>
    exact .pure ⟨Nat.zero_le _, Nat.zero_le _, by simp [Task.taken], hsupplied.2⟩
  | case5 control body tasks results =>
    exact .pure ⟨Nat.zero_le _, by simp [Task.taken], hsupplied.2⟩
  | case6 number tasks results => exact .throw _
  | case7 tasks right left results => exact .bind fun r => .pure hsupplied.2
  | case8 tasks right left results => exact .bind fun r => .pure hsupplied.2
  | case9 control tasks body results => exact .bind fun r => .pure hsupplied.2
  | case10 => exact .throw _

/-- Any number of turns keeps the supply. -/
theorem Supplied.advance {state : State α β} (hsupplied : state.Supplied) (fold : Fold m α β)
    (count : Nat) : Returns Supplied (state.advance fold count) := by
  induction count generalizing state with
  | zero => exact .pure hsupplied
  | succ count ih => exact (hsupplied.turn fold).bind_of fun next hnext => ih hnext

/-- Any number of turns from one piece leads to states that serve their next task. -/
theorem advance_served (fold : Fold m α β) (piece : Music α) (count : Nat) :
    Returns Served ((initial piece).advance fold count) :=
  ((initial_supplied piece).advance fold count).imp fun _ => Supplied.served

end State

end Fold

end Polyphony
