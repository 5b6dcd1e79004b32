import Polyphony.Performance.Control
import Polyphony.Performance.Outcome

/-!
# Performing by recursion

The meaning of a piece under a context, by recursion on the piece: the right side of a line starts
where its left side ended, pieces together start at one time, and a control holds for its body. It
is idealized as `Music.perform` is: no stack limits how deep a piece may nest.
-/

namespace Polyphony

namespace Music

/-- The outcome of a piece under a context. -/
def outcome (roster : Option Roster) (context : Context) : Music Payload → Journaled Outcome
  | prim primitive => Outcome.ofPrimitive context primitive
  | seq left right => do
    let l ← left.outcome roster context
    let later ← context.advanced l.elapsed
    let r ← right.outcome roster later
    l.followedBy r
  | par left right => do
    let l ← left.outcome roster context
    let r ← right.outcome roster context
    l.together r
  | modify (.phrase attributes) body =>
    Outcome.phrase roster context attributes (body.outcome roster context)
  | modify control body => do
    let inner ← context.under roster control
    body.outcome roster inner
  | stray number => throw (.strayPiece number)

end Music

end Polyphony
