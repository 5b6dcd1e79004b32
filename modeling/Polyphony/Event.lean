import Polyphony.Music.Equality

/-!
# Events

A performance is a list of events: notes with their exact times. For playback an event is rendered,
its times becoming doubles.
-/

namespace Polyphony

/-- A performed note. -/
structure Event where
  /-- When the note starts. -/
  time : Ratio
  /-- The pitch. -/
  pitch : Int
  /-- The volume. -/
  volume : Int
  /-- The time that the note takes up in its line. -/
  length : Ratio
  /-- The time that the note sounds. -/
  duration : Ratio
  /-- The channel. -/
  channel : Channel
  /-- The note sounds. -/
  on : Bool
  /-- Further numbers. -/
  params : List Binary64
deriving DecidableEq

/-- A performed note with its times as doubles. -/
structure RenderedEvent where
  /-- When the note starts. -/
  time : Binary64
  /-- The pitch. -/
  pitch : Int
  /-- The volume. -/
  volume : Int
  /-- The time that the note takes up in its line. -/
  length : Binary64
  /-- The time that the note sounds. -/
  duration : Binary64
  /-- The channel. -/
  channel : Channel
  /-- The note sounds. -/
  on : Bool
  /-- Further numbers. -/
  params : List Binary64
deriving DecidableEq

namespace Event

/-- Equality of events: ratios by value, further numbers as doubles, field by field until the first
difference. -/
def eq (a b : Event) : Except Fault Bool := do
  if !(← a.time.eq b.time) then return false
  if a.pitch ≠ b.pitch ∨ a.volume ≠ b.volume then return false
  if !(← a.length.eq b.length) then return false
  if !(← a.duration.eq b.duration) then return false
  return a.channel = b.channel && a.on = b.on && sameParams a.params b.params

/-- The event with its times as doubles. -/
def rendered (event : Event) : Except Fault RenderedEvent := do
  let time ← event.time.toBinary64
  let length ← event.length.toBinary64
  let duration ← event.duration.toBinary64
  return ⟨time, event.pitch, event.volume, length, duration, event.channel, event.on, event.params⟩

/-- A performance with its times as doubles. -/
def renderAll (events : List Event) : Except Fault (List RenderedEvent) :=
  events.mapM rendered

end Event

end Polyphony
