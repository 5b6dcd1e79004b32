/-!
# Ratios

The times and lengths of the library. A ratio keeps its two integers as they were written, so
`2/8` and `1/4` are different ratios of one value; a zero below the line is possible and has no
value at all. A ratio is written in full, however many digits its integers have; a program that
refuses to print very long integers is not modelled.
-/

namespace Polyphony

/-- Two integers, one above and one below the line. -/
structure Ratio where
  /-- The integer above the line. -/
  numer : Int
  /-- The integer below the line. -/
  denom : Int
deriving DecidableEq, Inhabited

namespace Ratio

/-- The ratio zero. -/
def zero : Ratio := ⟨0, 1⟩

/-- The ratio one. -/
def one : Ratio := ⟨1, 1⟩

/-- An integer as a ratio. -/
def ofInt (k : Int) : Ratio := ⟨k, 1⟩

/-- The ratio has a value. -/
def Defined (r : Ratio) : Prop := r.denom ≠ 0

instance : DecidablePred Defined := fun r => inferInstanceAs (Decidable (r.denom ≠ 0))

/-- The value of a ratio that has one. -/
def value (r : Ratio) : Rat := (r.numer : Rat) / (r.denom : Rat)

/-- A ratio as it is written. -/
def text (r : Ratio) : String :=
  toString r.numer ++ "/" ++ toString r.denom

end Ratio

end Polyphony
