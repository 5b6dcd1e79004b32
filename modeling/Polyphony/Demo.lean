import Polyphony.Configuration
import Polyphony.Message
import Polyphony.Music.Build
import Polyphony.Music.Fold
import Polyphony.Performance.Worklist

/-!
# The demo

The demo plays one ascending octave of the configured key in quarter notes and tells about it: the
scale, every event, and a summary.
-/

namespace Polyphony.Demo

/-- The octave in which the scale starts. -/
def octave : Int := 2

/-- The pitches of one octave of a key, its first and last degree included. -/
def pitches (modes : Modes) (key : Key) : Except Fault (List Int) := do
  let steps ← modes.steps key.mode
  return (List.range (steps.length + 1)).map fun (degree : Nat) =>
    Modes.pitchOfDegree steps key.tonic degree octave

/-- The scale as a line of quarter notes with a volume. -/
def scale (volume : Int) (pitches : List Int) : Except Fault (Music Payload) :=
  (Music.line (pitches.map fun p => .prim (.note Duration.quarter p))).addVolumeAttribute volume

/-- The account of a scale. -/
def tellScale (modes : Modes) (key : Key) : Except Fault String := do
  let classes ← modes.scale key.tonic.number key.mode
  return "Scale: " ++ key.mode ++ " on pitch class " ++ toString key.tonic.number ++ " (" ++
    Text.bracketed (classes.map toString) ++ ")"

/-- The account of an event. -/
def tellEvent (event : RenderedEvent) : String :=
  "t=" ++ event.time.fixed 3 ++ " pitch=" ++ toString event.pitch ++ " vol=" ++
    toString event.volume ++ " dur=" ++ event.duration.fixed 3 ++ " ch=" ++
    toString event.channel.number

/-- The account of a whole performance. -/
def tellSummary (events messages : Nat) (length : Binary64) : String :=
  toString events ++ " events, " ++ toString messages ++ " MIDI messages, " ++ length.fixed 3 ++
    " wholes"

/-- Tells about the performance of a piece: every event, and at last the summary. -/
def tellPerformance (piece : Music Payload) (events : List Event) : Journaled Unit := do
  for event in ← Event.renderAll events do
    Recorded.enter (.told (tellEvent event))
  let messages ← Message.ofEvents Pace.standard events
  let length ← (← piece.length).toBinary64
  Recorded.enter (.told (tellSummary events.length messages.length length))

/-- Plays the octave under a context and tells about it. -/
def playUnder (modes : Modes) (roster : Roster) (context : Context) : Journaled Unit := do
  let pitches ← pitches modes context.key
  Recorded.enter (.told (← tellScale modes context.key))
  let piece ← scale context.volume pitches
  let outcome ← piece.perform (some roster) context
  tellPerformance piece outcome.events

/-- Plays the octave that a configuration file asks for, given a reader and the file's text if it is
there. -/
def play (modes : Modes) (read : Configuration.Reader) (text : Option String) :
    Journaled Unit := do
  Recorded.enter (.told "cadenza starting...")
  let config ← Configuration.load read text
  let context ← config.context modes (some .standard)
  playUnder modes .standard context

/-- Plays the octave with the modes that are registered from the start. -/
def run (read : Configuration.Reader) (text : Option String) : Journaled Unit :=
  play .standard read text

end Polyphony.Demo
