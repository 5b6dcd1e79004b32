import Polyphony.Event

/-!
# Merging performances

Two performances that go on together are merged by time. The left event goes first only when it is
strictly earlier, so of events at one time the right one goes first.
-/

namespace Polyphony.Performance

/-- Merges two lists of events by time. -/
def merge : List Event → List Event → Except Fault (List Event)
  | [], right => pure right
  | left, [] => pure left
  | l :: left, r :: right => do
    if ← l.time.lt r.time then
      return l :: (← merge left (r :: right))
    else
      return r :: (← merge (l :: left) right)
termination_by left right => left.length + right.length

end Polyphony.Performance
