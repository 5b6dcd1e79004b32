/-!
# Galloping

How many items at the front of a list stay in front of a given place. The items that stay come
before those that do not, so not all need a test: the tested places lie ever farther apart until
one does not stay, and the gap before it is halved. A list that is read from its last item to its
first is halved at the mirrored places.
-/

namespace Polyphony.Sorting

/-- The end of a list at which it is read. -/
inductive End where
  | front
  | back
deriving DecidableEq

variable {m : Type → Type} [Monad m] {α : Type}

/-- The middle of the places from `low` up to but not including `high`, when the list is read from
one of its ends. -/
def End.middle (side : End) (low high : Nat) : Nat :=
  match side with
  | front => low + (high - low) / 2
  | back => low + (high - low - 1) / 2

/-- The first place from `low` on whose item does not stay, or `high` if there is none before. -/
def halve (side : End) (stays : α → m Bool) (items : List α) (low high : Nat) : m Nat :=
  if _h : low < high then
    match items[side.middle low high]? with
    | none => pure low
    | some item => do
      if ← stays item then halve side stays items (side.middle low high + 1) high
      else halve side stays items low (side.middle low high)
  else pure low
termination_by high - low
decreasing_by all_goals cases side <;> simp only [End.middle] <;> omega

/-- Tests places ever farther apart, after the item at `last` stayed. Gives the last place that
stayed and the first that did not, or the end of the list. -/
def stride (stays : α → m Bool) (items : List α) (last next : Nat) : m (Nat × Nat) :=
  match _h : items[next]? with
  | none => pure (last, items.length)
  | some item => do
    if ← stays item then stride stays items next (2 * next + 1) else pure (last, next)
termination_by items.length - next
decreasing_by
  have := (List.getElem?_eq_some_iff.mp _h).1
  omega

/-- The number of items at the front that stay. -/
def countStaying (side : End) (stays : α → m Bool) (items : List α) : m Nat :=
  match items with
  | [] => pure 0
  | first :: _ => do
    if ← stays first then
      let (last, next) ← stride stays items 0 1
      halve side stays items (last + 1) next
    else pure 0

end Polyphony.Sorting
