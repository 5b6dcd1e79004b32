import Polyphony.Binary64.Rounding

/-!
# Arithmetic on doubles

Sums, products and quotients are exact and then rounded once. An operand that is not a number is
the result, made quiet, the left one before the right one.
-/

namespace Polyphony.Binary64

/-- What is not a number, with its quiet bit set. -/
def quieted (x : Binary64) : Binary64 :=
  if x.magnitude / Nat.pow 2 51 % 2 = 1 then x
  else if h : x.magnitude + Nat.pow 2 51 < Nat.pow 2 63 then
    ⟨x.negative, x.magnitude + Nat.pow 2 51, h⟩
  else x

/-- The result of an operation with an operand that is not a number. -/
def notNumber? (x y : Binary64) : Option Binary64 :=
  if x.isNaN then some x.quieted else if y.isNaN then some y.quieted else none

/-- The sum of two finite doubles; a sum of zero is negative only if both are. -/
def addFinite (x y : Binary64) : Binary64 :=
  let sum := x.units + y.units
  ofUnits (if sum = 0 then x.negative && y.negative else decide (sum < 0)) sum.natAbs 1

/-- The rounded sum. -/
def add (x y : Binary64) : Binary64 :=
  (notNumber? x y).getD <|
    if x.isInfinite then
      if y.isInfinite && x.negative != y.negative then undefinedNumber else x
    else if y.isInfinite then y
    else addFinite x y

/-- The rounded difference. -/
def sub (x y : Binary64) : Binary64 :=
  (notNumber? x y).getD (x.add y.neg)

/-- The rounded product. -/
def mul (x y : Binary64) : Binary64 :=
  let negative := x.negative != y.negative
  (notNumber? x y).getD <|
    if x.isInfinite || y.isInfinite then
      if x.isZero || y.isZero then undefinedNumber else infinity negative
    else ofUnits negative (x.units.natAbs * y.units.natAbs) (Nat.pow 2 unitExponent)

/-- The rounded quotient. -/
def div (x y : Binary64) : Binary64 :=
  let negative := x.negative != y.negative
  (notNumber? x y).getD <|
    if x.isInfinite then
      if y.isInfinite then undefinedNumber else infinity negative
    else if y.isInfinite then zero negative
    else if y.isZero then
      if x.isZero then undefinedNumber else infinity negative
    else ofUnits negative (x.units.natAbs * Nat.pow 2 unitExponent) y.units.natAbs

end Polyphony.Binary64
