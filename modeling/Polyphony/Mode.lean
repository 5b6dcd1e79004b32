import Polyphony.Pitch

/-!
# Modes

A mode is the ascending list of its steps in semitones above the tonic. A registry holds modes by
name; every mode in it starts at the tonic, ascends strictly and stays below the octave.
-/

namespace Polyphony

/-- The registered modes. -/
structure Modes where
  /-- Each mode's name and steps. -/
  entries : List (String × List Int)

/-- A pitch class and the name of a mode. -/
structure Key where
  /-- The tonic. -/
  tonic : PitchClass
  /-- The name of the mode. -/
  mode : String
deriving DecidableEq

namespace Modes

/-- The modes that are registered from the start. -/
def standard : Modes := ⟨[
  ("major", [0, 2, 4, 5, 7, 9, 11]),
  ("minor", [0, 2, 3, 5, 7, 8, 10]),
  ("ionian", [0, 2, 4, 5, 7, 9, 11]),
  ("dorian", [0, 2, 3, 5, 7, 9, 10]),
  ("phrygian", [0, 1, 3, 5, 7, 8, 10]),
  ("lydian", [0, 2, 4, 6, 7, 9, 11]),
  ("mixolydian", [0, 2, 4, 5, 7, 9, 10]),
  ("aeolian", [0, 2, 3, 5, 7, 8, 10]),
  ("locrian", [0, 1, 3, 5, 6, 8, 10]),
  ("lydianb7", [0, 2, 4, 6, 7, 9, 10]),
  ("bharaivi", [0, 1, 4, 5, 7, 8, 10])
]⟩

instance : Inhabited Modes := ⟨standard⟩

/-- The steps of a mode, if it is registered. -/
def steps? (modes : Modes) (name : String) : Option (List Int) :=
  modes.entries.lookup name

/-- The names of the modes in ascending order. -/
def names (modes : Modes) : List String :=
  (modes.entries.map (·.1)).mergeSort fun a b => a ≤ b

/-- The steps of a registered mode. -/
def steps (modes : Modes) (name : String) : Except Fault (List Int) :=
  match modes.steps? name with
  | some steps => pure steps
  | none => throw (.unknownMode name modes.names)

/-- Every step is above the one before it. -/
def ascending : List Int → Bool
  | a :: b :: rest => a < b && ascending (b :: rest)
  | _ => true

/-- The first fault of a list of steps, if it is no mode. -/
def stepsFault? (steps : List Int) : Option Fault :=
  if steps.head? ≠ some 0 then some .modeWithoutTonic
  else if !ascending steps then some .modeNotAscending
  else if 11 < steps.getLast?.getD 0 then some .modeTooWide
  else none

/-- Registers a mode under a name, in place of the one that had it. -/
def register (modes : Modes) (name : String) (steps : List Int) : Except Fault Modes :=
  match stepsFault? steps with
  | some fault => throw fault
  | none => pure ⟨(name, steps) :: modes.entries.filter fun entry => entry.1 ≠ name⟩

/-- The pitch classes of a scale, from its tonic upward. -/
def scale (modes : Modes) (tonic : Int) (mode : String) : Except Fault (List Int) := do
  let steps ← modes.steps mode
  return steps.map fun step => (tonic + step) % 12

/-- The pitch of a degree of a scale with given steps. Degrees count from zero; those past the last
step go on in the next octave, negative ones in the octaves below. -/
def pitchOfDegree (steps : List Int) (tonic : PitchClass) (degree octave : Int) : Int :=
  let size := (steps.length : Int)
  12 * (octave + degree.fdiv size) + tonic.number + steps.getD (degree.fmod size).toNat 0

/-- The pitch of a degree in a key. -/
def degree (modes : Modes) (key : Key) (degree octave : Int) : Except Fault Int := do
  let steps ← modes.steps key.mode
  return pitchOfDegree steps key.tonic degree octave

end Modes

end Polyphony
