import Polyphony.Event
import Polyphony.Pace
import Polyphony.Sorting.Runs
import Polyphony.Velocity

/-!
# Messages

The messages that sound a performance: a note is switched on at its start and off at its end, in
seconds of a given tempo. At one moment notes are switched off before others are switched on.
-/

namespace Polyphony

/-- A message switches a note on or off. -/
inductive Switch where
  | on
  | off
deriving DecidableEq

/-- A message at its moment. -/
structure Message where
  /-- The moment in seconds. -/
  seconds : Binary64
  /-- What happens to the note. -/
  switch : Switch
  /-- The channel, counted from zero. -/
  channel : Int
  /-- The pitch. -/
  note : Int
  /-- The volume, zero for a note that is switched off. -/
  velocity : Int
deriving DecidableEq

namespace Message

/-- The messages of one event: none if it is silent, otherwise one that switches its note on and
one that switches it off. -/
def ofEvent (pace : Binary64) (event : RenderedEvent) : Except Fault (List Message) :=
  if !event.on then pure []
  else if 0 ≤ event.pitch ∧ event.pitch ≤ 127 then
    pure [
      ⟨event.time.mul pace, .on, event.channel.wire, event.pitch, Velocity.clamp event.volume⟩,
      ⟨(event.time.add event.duration).mul pace, .off, event.channel.wire, event.pitch, 0⟩
    ]
  else throw (.pitchOutside event.pitch event.time)

/-- A message comes before another: it is earlier, or at the same moment switches off while the
other switches on. -/
def before (a b : Message) : Bool :=
  if a.seconds.eq b.seconds then a.switch = .off && b.switch = .on else a.seconds.lt b.seconds

/-- Messages in the order of their moments; those that no order separates keep their order. A moment
that is not a number has no place in the order. Where there is one, the result hangs on which
messages are compared, and so the schedule of comparisons is fixed. -/
def sorted (messages : List Message) : List Message :=
  if messages.any fun message => message.seconds.isNaN then
    Id.run (Sorting.sort (fun a b => pure (before a b)) messages)
  else messages.mergeSort fun a b => !before b a

/-- The messages of a performance in a tempo of beats per minute. -/
def ofEvents (beats : Datum) (events : List Event) : Except Fault (List Message) := do
  let pace ← Pace.secondsPerWhole beats
  let rendered ← Event.renderAll events
  let messages ← rendered.mapM (ofEvent pace)
  return sorted messages.flatten

end Message

end Polyphony
