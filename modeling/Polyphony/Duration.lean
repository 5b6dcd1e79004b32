import Polyphony.Ratio.Basic

/-!
# Durations

Lengths of notes, as fractions of a whole note.
-/

namespace Polyphony.Duration

/-- A quarter note. -/
def quarter : Ratio := ⟨1, 4⟩

/-- The share of a note's length that sounds by default. -/
def soundingShare : Ratio := ⟨1, 2⟩

end Polyphony.Duration
