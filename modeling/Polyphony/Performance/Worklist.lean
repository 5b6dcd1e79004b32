import Polyphony.Performance.Control
import Polyphony.Performance.Outcome

/-!
# Performing by a work list

The performance of a piece by an explicit list of pending steps and the outcomes of finished
pieces, so that a long line, which nests as deep as it is long, needs no deep recursion. Only a
phrase starts a work list of its own, for its player needs the whole outcome of its body. So the
nesting of phrases is the one depth that a stack must have room for: with a room, a phrase nested
deeper is a fault. `Music.perform` is the idealized performance, on a stack without a limit;
`Music.performWithin` is the one on a stack with a given room.
-/

namespace Polyphony.Performance

/-- A pending step. -/
inductive Step where
  /-- Perform a piece under a context. -/
  | perform (context : Context) (piece : Music Payload)
  /-- Perform the right side of a line, after the left side has left its outcome. -/
  | continueLine (context : Context) (right : Music Payload)
  /-- Join the last two outcomes, one after the other. -/
  | joinLine
  /-- Join the last two outcomes, together. -/
  | joinChord

/-- The most steps that a step leads to. -/
def Step.weight : Step → Nat
  | perform _ piece => 3 * piece.nodes
  | continueLine _ right => 3 * right.nodes + 2
  | joinLine => 1
  | joinChord => 1

/-- The most steps that a list of steps leads to. -/
def weight : List Step → Nat
  | [] => 0
  | step :: steps => step.weight + weight steps

/-- How many more phrases a stack of usual size has room for, one within the other. -/
def usualRoom : Nat := 1000

/-- The room that is left within a phrase. A room of none is one without a limit. -/
def innerRoom : Option Nat → Except Fault (Option Nat)
  | none => pure none
  | some 0 => throw .nestedTooDeep
  | some (room + 1) => pure (some room)

/-- Works through a list of steps, with a room for nested phrases. The outcomes of finished pieces
are kept last first. -/
def run (roster : Option Roster) (room : Option Nat) (steps : List Step)
    (outcomes : List Outcome) : Journaled Outcome :=
  match steps, outcomes with
  | [], outcome :: _ => return outcome
  | [], [] => throw .noResult
  | .perform context (.prim primitive) :: steps, outcomes => do
    let outcome ← Outcome.ofPrimitive context primitive
    run roster room steps (outcome :: outcomes)
  | .perform context (.seq left right) :: steps, outcomes =>
    run roster room (.perform context left :: .continueLine context right :: steps) outcomes
  | .perform context (.par left right) :: steps, outcomes =>
    run roster room (.perform context left :: .perform context right :: .joinChord :: steps)
      outcomes
  | .perform context (.modify (.phrase attributes) body) :: steps, outcomes => do
    let outcome ← Outcome.phrase roster context attributes do
      run roster (← innerRoom room) [.perform context body] []
    run roster room steps (outcome :: outcomes)
  | .perform context (.modify control body) :: steps, outcomes => do
    let inner ← context.under roster control
    run roster room (.perform inner body :: steps) outcomes
  | .perform _ (.stray number) :: _, _ => throw (.strayPiece number)
  | .continueLine context right :: steps, left :: outcomes => do
    let later ← context.advanced left.elapsed
    run roster room (.perform later right :: .joinLine :: steps) (left :: outcomes)
  | .joinLine :: steps, right :: left :: outcomes => do
    let outcome ← left.followedBy right
    run roster room steps (outcome :: outcomes)
  | .joinChord :: steps, right :: left :: outcomes => do
    let outcome ← left.together right
    run roster room steps (outcome :: outcomes)
  | _ :: _, _ => throw .noResult
termination_by weight steps
decreasing_by
  all_goals
    simp only [weight, Step.weight, Music.nodes]
    omega

end Polyphony.Performance

namespace Polyphony.Music

/-- Performs a piece under a context, phrases being nested as deep as they may be. -/
def perform (roster : Option Roster) (context : Context) (piece : Music Payload) :
    Journaled Outcome :=
  Performance.run roster none [.perform context piece] []

/-- Performs a piece under a context, with room for a number of nested phrases. -/
def performWithin (room : Nat) (roster : Option Roster) (context : Context)
    (piece : Music Payload) : Journaled Outcome :=
  Performance.run roster (some room) [.perform context piece] []

end Polyphony.Music
