/-!
# Sorting by insertion

Short lists are sorted by putting one item after another into the sorted part. The place of an item
is found by halving the sorted part: it goes after every item that it is not below. Comparisons are
effects, which may fail, so their order is part of the result.
-/

namespace Polyphony.Sorting

variable {m : Type → Type} [Monad m] {α : Type}

/-- Puts an item into a sorted list by halving it. -/
def insertHalving (below : α → α → m Bool) (item : α) (sorted : List α) : m (List α) :=
  match _h : sorted.drop (sorted.length / 2) with
  | [] => pure [item]
  | middle :: right => do
    if ← below item middle then
      let left ← insertHalving below item (sorted.take (sorted.length / 2))
      pure (left ++ middle :: right)
    else
      let right ← insertHalving below item right
      pure (sorted.take (sorted.length / 2) ++ middle :: right)
termination_by sorted.length
decreasing_by
  all_goals
    have := congrArg List.length _h
    simp only [List.length_drop, List.length_cons, List.length_take] at this ⊢
    omega

/-- Inserts items one after another. -/
def insertAll (below : α → α → m Bool) (sorted : List α) : List α → m (List α)
  | [] => pure sorted
  | item :: items => do
    insertAll below (← insertHalving below item sorted) items

end Polyphony.Sorting
