import Polyphony.Binary64.Basic

/-!
# Rounding to doubles

The double nearest to an exact quotient, a half going to the even neighbour. A quotient is first
measured in units; if it has more than 53 bits, its lowest bits are rounded away. The shift by the
number of those bits and the rounded rest add up to the magnitude, also when rounding carries into
a further bit.
-/

namespace Polyphony

/-- The integer nearest to a quotient, a half going to the even neighbour. -/
def roundQuotient (numer denom : Nat) : Nat :=
  let quotient := numer / denom
  let rest := numer % denom
  if denom < 2 * rest ∨ (2 * rest = denom ∧ quotient % 2 = 1) then quotient + 1 else quotient

namespace Binary64

/-- The bits by which a number of units exceeds 53 bits. -/
def excessBits (units : Nat) : Nat :=
  units.log2 - 52

/-- The magnitude nearest to a quotient of units. It may lie beyond the infinite magnitude. -/
def nearestMagnitude (numer denom : Nat) : Nat :=
  let excess := excessBits (numer / denom)
  excess * Nat.pow 2 52 + roundQuotient numer (denom * Nat.pow 2 excess)

/-- The finite double nearest to a quotient of units; `none` when it is too large for one. -/
def ofUnits? (negative : Bool) (numer denom : Nat) : Option Binary64 :=
  let magnitude := nearestMagnitude numer denom
  if h : magnitude < infiniteMagnitude then
    some ⟨negative, magnitude, Nat.lt_trans h (by decide)⟩
  else none

/-- The double nearest to a quotient of units, an infinity when it is too large for a finite one. -/
def ofUnits (negative : Bool) (numer denom : Nat) : Binary64 :=
  (ofUnits? negative numer denom).getD (infinity negative)

/-- The finite double nearest to a quotient of integers with a nonzero denominator. A zero takes
the sign of the denominator. -/
def ofQuotient? (numer denom : Int) : Option Binary64 :=
  ofUnits? ((numer < 0) != (denom < 0)) (numer.natAbs * Nat.pow 2 unitExponent) denom.natAbs

/-- The finite double nearest to an integer. -/
def ofInt? (k : Int) : Option Binary64 :=
  ofQuotient? k 1

/-- The double nearest to a decimal numeral: its digits as one number, times a power of ten. Powers
far beyond the range of doubles are not computed. -/
def ofDecimal (negative : Bool) (digits : Nat) (exponent : Int) : Binary64 :=
  if digits = 0 || exponent + digits.log2 < -500 then zero negative
  else if 500 < exponent then infinity negative
  else
    ofUnits negative (digits * Nat.pow 10 exponent.toNat * Nat.pow 2 unitExponent)
      (Nat.pow 10 (-exponent).toNat)

/-- The integer part of a finite double. -/
def integerPart (x : Binary64) : Int :=
  x.units.tdiv (Nat.pow 2 unitExponent : Nat)

/-- The integer nearest to a finite double, a half going to the even neighbour. -/
def nearestInteger (x : Binary64) : Int :=
  let rounded := roundQuotient x.units.natAbs (Nat.pow 2 unitExponent)
  if x.units < 0 then -(rounded : Int) else rounded

end Binary64

end Polyphony
