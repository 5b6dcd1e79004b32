import Polyphony.Sorting.Gallop

/-!
# Merging runs

Two sorted runs that follow each other are merged into one; of equal items the one of the left run
goes first. Items that are in place already are left alone. The rest is merged from the front if
the left run is the shorter one, and from the back otherwise: item by item at first, and by
galloping once one run has won often enough in a row. The patience that this takes is carried from
one merge to the next: galloping that pays lowers it, galloping that does not raises it.
-/

namespace Polyphony.Sorting

variable {m : Type → Type} [Monad m] {α : Type}

/-- The streak that makes galloping worth going on with. -/
def worthwhile : Nat := 7

/-- How the next items of two runs are found. -/
inductive Gait where
  /-- One comparison for one item, with the streaks of the left and the right run. -/
  | walk (left right : Nat)
  /-- Galloping through the left run. -/
  | gallop
  /-- Galloping through the right run, after a number of items of the left one. -/
  | gallopOn (left : Nat)

namespace End

/-- The next item of the right run goes before that of the left one, where both runs are read from
one of their ends. -/
def rightFirst (side : End) (below : α → α → m Bool) (left right : α) : m Bool :=
  match side with
  | front => below right left
  | back => not <$> below right left

/-- Puts together what is merged, last first, and what is left of both runs. Nothing but the last
item of the one run, or nothing of the other, is left at the end. -/
def assemble (side : End) (merged left right : List α) : List α :=
  match side with
  | front => merged.reverse ++ (right ++ left)
  | back => right.reverse ++ (left.reverse ++ merged)

/-- The run that decides the end has no items after the next one. -/
def isLast (side : End) (leftRest rightRest : List α) : Bool :=
  match side with
  | front => leftRest.isEmpty
  | back => rightRest.isEmpty

end End

/-- Merges what is left of two runs, both read from one of their ends. What is merged comes last
first. Gives the merged items and the patience after it. -/
def mergeFrom (side : End) (below : α → α → m Bool) (gait : Gait) (patience : Nat)
    (merged left right : List α) : m (List α × Nat) :=
  match left, right with
  | x :: xs, y :: ys =>
    if side.isLast xs ys then pure (side.assemble merged (x :: xs) (y :: ys), patience)
    else
      match gait with
      | .walk p q => do
        if ← side.rightFirst below x y then
          mergeFrom side below (if patience ≤ q + 1 then .gallop else .walk 0 (q + 1)) patience
            (y :: merged) (x :: xs) ys
        else
          mergeFrom side below (if patience ≤ p + 1 then .gallop else .walk (p + 1) 0) patience
            (x :: merged) xs (y :: ys)
      | .gallop => do
        let p ← countStaying side (fun z => not <$> side.rightFirst below z y) (x :: xs)
        mergeFrom side below (.gallopOn p) patience
          (y :: (((x :: xs).take p).reverse ++ merged)) ((x :: xs).drop p) ys
      | .gallopOn p => do
        let q ← countStaying side (fun z => side.rightFirst below x z) (y :: ys)
        let merged := x :: (((y :: ys).take q).reverse ++ merged)
        let rest := (y :: ys).drop q
        if xs.isEmpty || rest.isEmpty || side.isLast xs.tail rest.tail then
          pure (side.assemble merged xs rest, patience)
        else if worthwhile ≤ p ∨ worthwhile ≤ q then
          mergeFrom side below .gallop (max 1 (patience - 1)) merged xs rest
        else mergeFrom side below (.walk 0 0) (patience + 1) merged xs rest
  | left, right => pure (side.assemble merged left right, patience)
termination_by left.length + right.length
decreasing_by
  all_goals
    simp only [List.length_cons, List.length_drop]
    omega

/-- Merges two runs whose first item is the right run's and whose last item is the left run's. -/
def mergeCrossed (below : α → α → m Bool) (patience : Nat) (left right : List α) :
    m (List α × Nat) :=
  if left.length ≤ right.length then
    match right with
    | y :: ys => mergeFrom .front below (.walk 0 0) patience [y] left ys
    | [] => pure (left, patience)
  else
    match left.reverse with
    | x :: xs => mergeFrom .back below (.walk 0 0) patience [x] xs right.reverse
    | [] => pure (right, patience)

/-- Merges two runs. Gives the merged run and the patience after it. -/
def merge (below : α → α → m Bool) (patience : Nat) (left right : List α) :
    m (List α × Nat) :=
  match right with
  | [] => pure (left, patience)
  | y :: _ => do
    let first ← countStaying .front (fun x => not <$> below y x) left
    let crossed := left.drop first
    match crossed.getLast? with
    | none => pure (left ++ right, patience)
    | some x => do
      let last ← countStaying .back (fun z => not <$> below z x) right.reverse
      let size := right.length - last
      if size = 0 then pure (left ++ right, patience)
      else
        let (items, patience) ← mergeCrossed below patience crossed (right.take size)
        pure (left.take first ++ (items ++ right.drop size), patience)

end Polyphony.Sorting
