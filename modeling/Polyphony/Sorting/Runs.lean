import Polyphony.Sorting.Insertion
import Polyphony.Sorting.Merge

/-!
# Stable sorting by runs

A stable sort whose comparisons may fail, in a fixed order of comparisons. The list is split into
runs that ascend, or descend strictly and are turned round; short runs are filled up by insertion.
Neighbouring runs are merged in the order of a balanced tree over the list: the power of two
neighbours is the depth of the tree node that separates their middles, and deeper nodes are merged
first.
-/

namespace Polyphony.Sorting

variable {m : Type → Type} [Monad m] {α : Type}

/-- A sorted run. -/
structure Run (α : Type) where
  /-- The place of its first item in the list. -/
  start : Nat
  /-- The number of its items. -/
  size : Nat
  /-- Its items in order. -/
  items : List α
  /-- The power of the run and the one after it. -/
  power : Nat

/-- The number of items that follow `last` without a break: each one below the one before it if
`down`, each one not below it otherwise. -/
def countRun (below : α → α → m Bool) (down : Bool) (last : α) : List α → m Nat
  | [] => pure 0
  | item :: items => do
    if (← below item last) = down then
      let count ← countRun below down item items
      pure (count + 1)
    else pure 0

/-- The direction of the run that an item begins, and the number of items that follow it there. -/
def followers (below : α → α → m Bool) (first : α) : List α → m (Bool × Nat)
  | [] => pure (false, 0)
  | second :: items => do
    let down ← below second first
    let count ← countRun below down second items
    pure (down, count + 1)

/-- The shortest run for a number of items: up to sixty-four, and such that the runs are nearly a
power of two in number. -/
def shortestRun (count : Nat) : Nat :=
  if count < 64 then count
  else if count % 2 = 0 then shortestRun (count / 2)
  else shortestRunUp (count / 2)
where
  /-- The same number with one more for the bits that are cut off. -/
  shortestRunUp (count : Nat) : Nat :=
    if count < 64 then count + 1 else shortestRunUp (count / 2)

/-- The power of two neighbouring runs in a list of a given size: the first binary place at which
the middles of both, as parts of the list, differ. -/
def powerOf (start left right size : Nat) : Nat :=
  let low := 2 * start + left
  let high := low + left + right
  (((List.range (size.log2 + 2)).find? fun place =>
    low * Nat.pow 2 place / size ≠ high * Nat.pow 2 place / size).getD 0) + 1

/-- Merges two neighbouring runs. -/
def mergeRuns (below : α → α → m Bool) (patience : Nat) (left right : Run α) :
    m (Run α × Nat) := do
  let (items, patience) ← merge below patience left.items right.items
  pure ({ left with size := left.size + right.size, items }, patience)

/-- Merges the last runs, kept last first, as long as the power between them exceeds that of the
next pair. -/
def mergeDeeper (below : α → α → m Bool) (power patience : Nat) (runs : List (Run α)) :
    m (List (Run α) × Nat) :=
  match runs with
  | last :: before :: others =>
    if power < before.power then do
      let (run, patience) ← mergeRuns below patience before last
      mergeDeeper below power patience (run :: others)
    else pure (last :: before :: others, patience)
  | runs => pure (runs, patience)
termination_by runs.length

/-- Adds a run after the last one, in a list of a given size. -/
def addRun (below : α → α → m Bool) (size patience : Nat) (runs : List (Run α)) (run : Run α) :
    m (List (Run α) × Nat) :=
  match runs with
  | [] => pure ([run], patience)
  | last :: _ => do
    let power := powerOf last.start last.size run.size size
    let (runs, patience) ← mergeDeeper below power patience runs
    match runs with
    | [] => pure ([run], patience)
    | last :: others => pure (run :: { last with power } :: others, patience)

/-- Merges all runs into one, from the last on; of three, the smaller of the outer ones goes with
the middle one. -/
def mergeAll (below : α → α → m Bool) (patience : Nat) (runs : List (Run α)) : m (List α) :=
  match runs with
  | [] => pure []
  | [run] => pure run.items
  | [last, before] => do
    let (run, _) ← mergeRuns below patience before last
    pure run.items
  | last :: before :: other :: others =>
    if other.size < last.size then do
      let (run, patience) ← mergeRuns below patience other before
      mergeAll below patience (last :: run :: others)
    else do
      let (run, patience) ← mergeRuns below patience before last
      mergeAll below patience (run :: other :: others)
termination_by runs.length

/-- Splits a list into runs and merges them. `start` is the place of the first item that is left in
the list of all `size` items. -/
def sortFrom (below : α → α → m Bool) (shortest size start patience : Nat)
    (runs : List (Run α)) (items : List α) : m (List α) :=
  match items with
  | [] => mergeAll below patience runs
  | first :: rest => do
    let (down, count) ← followers below first rest
    let run := first :: rest.take count
    let run := if down then run.reverse else run
    let missing := shortest - run.length
    let after := rest.drop count
    let run ← insertAll below run (after.take missing)
    let (runs, patience) ← addRun below size patience runs ⟨start, run.length, run, 0⟩
    sortFrom below shortest size (start + run.length) patience runs (after.drop missing)
termination_by items.length
decreasing_by
  simp only [List.length_cons, List.length_drop]
  omega

/-- Sorts a list. -/
def sort (below : α → α → m Bool) (items : List α) : m (List α) :=
  sortFrom below (shortestRun items.length) items.length 0 worthwhile [] items

end Polyphony.Sorting
