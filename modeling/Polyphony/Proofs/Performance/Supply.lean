import Polyphony.Proofs.Performance.Derivation

/-!
# The supply of outcomes

A step of the work list may ask for outcomes that earlier steps left. This file counts outcomes
along the pending steps: from one piece on, every step finds what it takes, however the pieces are
nested, and the work ends with a single outcome.
-/

namespace Polyphony.Performance

/-- The outcomes that a step takes from those left, or looks at. -/
def Step.taken : Step → Nat
  | perform .. => 0
  | continueLine .. => 1
  | joinLine => 2
  | joinChord => 2

/-- With so many outcomes left, each of the steps finds what it takes, and one outcome is left in
the end. -/
def Supplied : List Step → Nat → Prop
  | [], count => count = 1
  | .perform .. :: steps, count => Supplied steps (count + 1)
  | .continueLine .. :: steps, count => 1 ≤ count ∧ Supplied steps count
  | .joinLine :: steps, count => 2 ≤ count ∧ Supplied steps (count - 1)
  | .joinChord :: steps, count => 2 ≤ count ∧ Supplied steps (count - 1)

namespace State

/-- The next step finds the outcomes that it takes; without a step, just one outcome is left. -/
def Served (state : State) : Prop :=
  match state.steps with
  | [] => state.outcomes.length = 1
  | step :: _ => step.taken ≤ state.outcomes.length

/-- The outcomes left are enough for the steps. -/
def Supplied (state : State) : Prop :=
  Performance.Supplied state.steps state.outcomes.length

theorem initial_supplied (context : Context) (piece : Music Payload) :
    (initial context piece).Supplied := rfl

/-- A supplied state serves its next step. -/
theorem Supplied.served {state : State} (hsupplied : state.Supplied) : state.Served := by
  obtain ⟨steps, outcomes⟩ := state
  cases steps with
  | nil => exact hsupplied
  | cons step steps =>
    cases step with
    | perform context piece => exact Nat.zero_le _
    | continueLine context right => exact hsupplied.1
    | joinLine => exact hsupplied.1
    | joinChord => exact hsupplied.1

variable {m : Type → Type} [Monad m] [MonadExceptOf Fault m] [MonadLiftT (Except Fault) m]
  [LawfulFaults m]

/-- A turn keeps the supply. -/
theorem Supplied.turn {state : State} (hsupplied : state.Supplied) (ensemble : Ensemble m) :
    Returns Supplied (state.turn ensemble) := by
  fun_cases State.turn ensemble state with
  | case1 outcomes => exact .pure hsupplied
  | case2 context primitive steps outcomes => exact .bind fun outcome => .pure hsupplied
  | case3 context left right steps outcomes => exact .pure ⟨by simp, hsupplied⟩
  | case4 context left right steps outcomes => exact .pure ⟨by simp, hsupplied⟩
  | case5 context attributes body steps outcomes =>
    exact .bind fun outcome => .pure hsupplied
  | case6 context control body steps outcomes hphrase =>
    exact .bind fun inner => .pure hsupplied
  | case7 context number steps outcomes => exact .throw _
  | case8 context right steps left outcomes =>
    exact .bind fun later => .pure ⟨by simp, hsupplied.2⟩
  | case9 steps right left outcomes => exact .bind fun outcome => .pure hsupplied.2
  | case10 steps right left outcomes => exact .bind fun outcome => .pure hsupplied.2
  | case11 => exact .throw _

/-- Any number of turns keeps the supply. -/
theorem Supplied.advance {state : State} (hsupplied : state.Supplied) (ensemble : Ensemble m)
    (count : Nat) : Returns Supplied (state.advance ensemble count) := by
  induction count generalizing state with
  | zero => exact .pure hsupplied
  | succ count ih => exact (hsupplied.turn ensemble).bind_of fun next hnext => ih hnext

/-- Any number of turns from one piece leads to states that serve their next step. -/
theorem advance_served (ensemble : Ensemble m) (context : Context) (piece : Music Payload)
    (count : Nat) : Returns Served ((initial context piece).advance ensemble count) :=
  ((initial_supplied context piece).advance ensemble count).imp fun _ => Supplied.served

end State

end Polyphony.Performance

namespace Polyphony

open Performance State

end Polyphony
