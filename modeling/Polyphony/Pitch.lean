import Polyphony.Fault

/-!
# Pitch classes

The twelve pitch classes and the note names for them. Pitches are integers, twelve to an octave.
-/

namespace Polyphony

/-- A pitch regardless of its octave, counted in semitones from C. -/
abbrev PitchClass := Fin 12

namespace PitchClass

/-- The note names of keys: the pitch classes and their spellings with flats and sharps. -/
def noteNames : List (String × PitchClass) := [
  ("A", 9), ("A#", 10), ("Ab", 8), ("B", 11), ("Bb", 10), ("C", 0), ("C#", 1), ("D", 2), ("D#", 3),
  ("Db", 1), ("E", 4), ("Eb", 3), ("F", 5), ("F#", 6), ("G", 7), ("G#", 8), ("Gb", 6)
]

/-- The number of a pitch class. -/
def number (pitchClass : PitchClass) : Int := (pitchClass.val : Int)

/-- The pitch class with a number. -/
def ofInt (number : Int) : Except Fault PitchClass :=
  if h : 0 ≤ number ∧ number < 12 then pure ⟨number.toNat, by omega⟩
  else throw (.notPitchClass number)

/-- The pitch class of a note name. -/
def ofNoteName (name : String) : Except Fault PitchClass :=
  match noteNames.find? fun entry => entry.1 = name with
  | some entry => pure entry.2
  | none => throw (.unknownNote name)

end PitchClass

end Polyphony
