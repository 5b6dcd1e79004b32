import Polyphony.Music.Basic

/-!
# Folding pieces

A fold collapses a piece from the leaves up, with one handler for each kind of node. Handlers may
fail and may have effects in any order-sensitive monad. `Fold.collapse` is the fold by recursion on
the piece; `Fold.walk` works through an explicit list of tasks, so that a long line, which nests as
deep as it is long, needs no deep recursion on the piece.
-/

namespace Polyphony

/-- What to do at each kind of node. -/
structure Fold (m : Type → Type) (α β : Type) where
  /-- At a leaf. -/
  onPrim : Primitive α → m β
  /-- At one piece after another, with the results of both. -/
  onSeq : β → β → m β
  /-- At two pieces together, with the results of both. -/
  onPar : β → β → m β
  /-- At a piece under a control, with its result. -/
  onModify : Control → β → m β

namespace Fold

variable {m : Type → Type} [Monad m] [MonadExceptOf Fault m] {α β : Type}

/-- The fold by recursion: children from left to right, each before its parent. -/
def collapse (fold : Fold m α β) : Music α → m β
  | .prim primitive => fold.onPrim primitive
  | .seq left right => do
    let l ← fold.collapse left
    let r ← fold.collapse right
    fold.onSeq l r
  | .par left right => do
    let l ← fold.collapse left
    let r ← fold.collapse right
    fold.onPar l r
  | .modify control body => do
    let b ← fold.collapse body
    fold.onModify control b
  | .stray number => throw (.strayPiece number)

/-- A task of the explicit fold. -/
inductive Task (α : Type) where
  /-- Fold a piece. -/
  | visit (piece : Music α)
  /-- Join the last two results, one after the other. -/
  | seq
  /-- Join the last two results, together. -/
  | par
  /-- Put the last result under a control. -/
  | modify (control : Control)

/-- The steps that a task still needs. -/
def Task.weight : Task α → Nat
  | visit piece => 2 * piece.nodes
  | _ => 1

/-- The steps that a list of tasks still needs. -/
def weight : List (Task α) → Nat
  | [] => 0
  | task :: tasks => task.weight + weight tasks

/-- Works through a list of tasks. The results of finished pieces are kept last first. -/
def run (fold : Fold m α β) (tasks : List (Task α)) (results : List β) : m β :=
  match tasks, results with
  | [], result :: _ => pure result
  | [], [] => throw .noResult
  | .visit (.prim primitive) :: tasks, results => do
    let r ← fold.onPrim primitive
    run fold tasks (r :: results)
  | .visit (.seq left right) :: tasks, results =>
    run fold (.visit left :: .visit right :: .seq :: tasks) results
  | .visit (.par left right) :: tasks, results =>
    run fold (.visit left :: .visit right :: .par :: tasks) results
  | .visit (.modify control body) :: tasks, results =>
    run fold (.visit body :: .modify control :: tasks) results
  | .visit (.stray number) :: _, _ => throw (.strayPiece number)
  | .seq :: tasks, right :: left :: results => do
    let r ← fold.onSeq left right
    run fold tasks (r :: results)
  | .par :: tasks, right :: left :: results => do
    let r ← fold.onPar left right
    run fold tasks (r :: results)
  | .modify control :: tasks, body :: results => do
    let r ← fold.onModify control body
    run fold tasks (r :: results)
  | _ :: _, _ => throw .noResult
termination_by weight tasks
decreasing_by
  all_goals
    simp only [weight, Task.weight, Music.nodes]
    omega

/-- The fold by tasks. -/
def walk (fold : Fold m α β) (piece : Music α) : m β :=
  run fold [.visit piece] []

end Fold

namespace Music

variable {α β : Type}

/-- The fold that rebuilds a piece with other payloads. -/
def rebuild (f : α → β) : Fold (Except Fault) α (Music β) where
  onPrim primitive := pure (prim (primitive.map f))
  onSeq left right := pure (seq left right)
  onPar left right := pure (par left right)
  onModify control body := pure (modify control body)

/-- Changes every payload of a piece. -/
def map (f : α → β) (piece : Music α) : Except Fault (Music β) :=
  (rebuild f).walk piece

/-- Pairs every pitch with a volume. -/
def addVolume (volume : Int) : Music Int → Except Fault (Music Payload) :=
  map fun p => .loud p volume

/-- Gives every pitch a volume attribute. -/
def addVolumeAttribute (volume : Int) : Music Int → Except Fault (Music Payload) :=
  map fun p => .marked p [.volume volume]

/-- The fold that measures a piece: sums along lines, the longer side of pieces together, divided
by tempos. -/
def measure : Fold (Except Fault) α Ratio where
  onPrim primitive := pure primitive.length
  onSeq := Ratio.add
  onPar := Ratio.max
  onModify
    | .tempo ratio, length => length.div ratio
    | _, length => pure length

/-- The length of a piece before any scaling. -/
def length (piece : Music α) : Except Fault Ratio :=
  measure.walk piece

end Music

end Polyphony
