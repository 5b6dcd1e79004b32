/-!
# Comparisons

The four tests of an order. Values that have no place relative to each other fail all of them.
-/

namespace Polyphony

/-- A test of an order. -/
inductive Comparison where
  /-- Below. -/
  | lt
  /-- Below or equal. -/
  | le
  /-- Above. -/
  | gt
  /-- Above or equal. -/
  | ge
deriving DecidableEq

namespace Comparison

/-- The sign of a test. -/
def sign : Comparison → String
  | lt => "<"
  | le => "<="
  | gt => ">"
  | ge => ">="

/-- The test holds of two values, given how the first one stands to the second, if it does. -/
def holds (test : Comparison) : Option Ordering → Bool
  | none => false
  | some ordering =>
    match test with
    | lt => ordering.isLT
    | le => ordering.isLE
    | gt => ordering.isGT
    | ge => ordering.isGE

end Comparison

end Polyphony
