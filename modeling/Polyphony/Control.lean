import Polyphony.Channel
import Polyphony.Mode
import Polyphony.Ratio.Order

/-!
# Controls and attributes

A control stands around a piece of music and changes how it is performed. A phrase carries
attributes that reshape its events; a single note may carry attributes of its own.
-/

namespace Polyphony

/-- What a phrase asks of the events in it. -/
inductive PhraseAttribute where
  /-- Scales every volume. -/
  | accent (amount : Ratio)
  /-- Raises the volume across the phrase. -/
  | crescendo (amount : Ratio)
  /-- Lowers the volume across the phrase. -/
  | diminuendo (amount : Ratio)
  /-- Scales every sounding duration, meant to shorten it. -/
  | staccato (amount : Ratio)
  /-- Scales every sounding duration, meant to lengthen it. -/
  | legato (amount : Ratio)
deriving DecidableEq

/-- What a single note asks of its event. -/
inductive NoteAttribute where
  /-- The volume in place of the context's. -/
  | volume (value : Int)
  /-- The finger to play the note with. -/
  | fingering (value : Int)
  /-- A dynamic mark. -/
  | dynamics (mark : String)
  /-- Further numbers for the event. -/
  | params (values : List Binary64)
deriving DecidableEq

/-- What a note carries besides its length. -/
inductive Payload where
  /-- A pitch. -/
  | pitch (p : Int)
  /-- A pitch and a volume. -/
  | loud (p volume : Int)
  /-- A pitch and attributes. -/
  | marked (p : Int) (attributes : List NoteAttribute)
deriving DecidableEq

/-- What changes the performance of a piece. -/
inductive Control where
  /-- Plays faster by a ratio. -/
  | tempo (ratio : Ratio)
  /-- Shifts pitches by semitones. -/
  | transpose (steps : Int)
  /-- Plays on a channel. -/
  | instrument (channel : Channel)
  /-- Sets the key. -/
  | key (key : Key)
  /-- Hands the piece to the player as a phrase. -/
  | phrase (attributes : List PhraseAttribute)
  /-- A directive in words. -/
  | custom (directive : String)
  /-- A number in the place of a control. -/
  | stray (number : Int)
deriving DecidableEq

namespace Control

/-- A tempo control, if its ratio is positive. -/
def checkedTempo (ratio : Ratio) : Except Fault Control := do
  if ← ratio.le .zero then throw (.tempoNotPositive ratio)
  return tempo ratio

/-- A key control, if its mode is registered. -/
def checkedKey (modes : Modes) (tonic : PitchClass) (mode : String) : Except Fault Control := do
  let _ ← modes.steps mode
  return key ⟨tonic, mode⟩

end Control

end Polyphony
