import Polyphony.Ratio.Arithmetic

/-!
# Order of ratios

Ratios are compared by their exact values, so the way they are written does not count. A ratio
without a value cannot be compared; of two such ratios the left one is reported.
-/

namespace Polyphony.Ratio

/-- The exact value. -/
def value? (r : Ratio) : Except Fault Rat :=
  if r.denom = 0 then throw (.undefinedValue r.numer) else pure r.value

/-- Compares two values, the left one taken first. -/
def compareBy (test : Rat → Rat → Bool) (left right : Ratio) : Except Fault Bool := do
  let x ← left.value?
  let y ← right.value?
  return test x y

/-- The values are equal. -/
def eq (left right : Ratio) : Except Fault Bool :=
  compareBy (fun x y => x = y) left right

/-- The left value is below the right one. -/
def lt (left right : Ratio) : Except Fault Bool :=
  compareBy (fun x y => x < y) left right

/-- The left value is not above the right one. -/
def le (left right : Ratio) : Except Fault Bool :=
  compareBy (fun x y => x ≤ y) left right

/-- The left value is above the right one. -/
def gt (left right : Ratio) : Except Fault Bool :=
  compareBy (fun x y => y < x) left right

/-- The left value is not below the right one. -/
def ge (left right : Ratio) : Except Fault Bool :=
  compareBy (fun x y => y ≤ x) left right

/-- The larger ratio as it is written; of equal ones, the left. -/
def max (left right : Ratio) : Except Fault Ratio := do
  return if ← right.gt left then right else left

/-- The ratio in lowest terms, from its exact value. -/
def canonical (r : Ratio) : Except Fault Ratio := do
  let x ← r.value?
  return ⟨x.num, x.den⟩

end Polyphony.Ratio
