import Polyphony.Journal.Entry
import Polyphony.Performance.Merge
import Polyphony.Player.Note
import Polyphony.Player.Phrase

/-!
# Outcomes of performances

What each kind of node contributes to a performance. A leaf takes up its scaled length; two pieces
in a row follow each other; two pieces together are merged and take as long as the longer one; a
phrase is reshaped by its player, and is silent without a roster.
-/

namespace Polyphony

/-- The events of a piece and the time that it took. -/
structure Outcome where
  /-- The events, in performed order. -/
  events : List Event
  /-- The time from the start of the piece to its end. -/
  elapsed : Ratio
deriving DecidableEq

namespace Outcome

/-- Nothing, which takes no time. -/
def silence : Outcome := ⟨[], .zero⟩

/-- The outcome of a leaf. -/
def ofPrimitive (context : Context) (primitive : Primitive Payload) : Journaled Outcome := do
  let elapsed ← primitive.length.mul context.lengthScale
  match primitive with
  | .note length payload =>
    Recorded.enter (.note context length payload)
    let event ← Player.playNote context length payload
    return ⟨[event], elapsed⟩
  | .rest _ => return ⟨[], elapsed⟩

/-- The outcome of one piece after another. -/
def followedBy (left right : Outcome) : Except Fault Outcome := do
  return ⟨left.events ++ right.events, ← left.elapsed.add right.elapsed⟩

/-- The outcome of two pieces together. -/
def together (left right : Outcome) : Except Fault Outcome := do
  let events ← Performance.merge left.events right.events
  return ⟨events, ← left.elapsed.max right.elapsed⟩

/-- The outcome of a phrase, given that of its body. -/
def phrase (roster : Option Roster) (context : Context) (attributes : List PhraseAttribute)
    (body : Journaled Outcome) : Journaled Outcome := do
  Recorded.enter (.phrase context attributes)
  match roster with
  | none => return silence
  | some _ =>
    let outcome ← body
    let events ← context.player.applyPhraseAttributes outcome.elapsed outcome.events attributes
    return { outcome with events }

end Outcome

end Polyphony
