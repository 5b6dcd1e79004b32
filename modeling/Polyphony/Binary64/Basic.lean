/-!
# Doubles

A double-precision number is a sign and a 63-bit magnitude: eleven bits of exponent above 52 bits
of fraction. Magnitudes grow with the numbers they stand for, so the order of the doubles is that
of their signed magnitudes. Every finite double is a whole number of *units* of `2 ^ -1074`, which
makes exact arithmetic on them a matter of integers.
-/

namespace Polyphony

/-- A double: a sign bit and the other 63 bits. -/
structure Binary64 where
  /-- The sign bit. -/
  negative : Bool
  /-- Exponent and fraction. -/
  magnitude : Nat
  /-- Exponent and fraction fill 63 bits. -/
  magnitude_lt : magnitude < Nat.pow 2 63
deriving DecidableEq

namespace Binary64

/-- The magnitude of the infinities; those above it are not numbers. -/
def infiniteMagnitude : Nat := 2047 * Nat.pow 2 52

/-- The exponent of the unit that all finite doubles are multiples of, negated. -/
def unitExponent : Nat := 1074

/-- The double of a 64-bit word; higher bits do not count. -/
def ofWord (word : Nat) : Binary64 :=
  ⟨word / Nat.pow 2 63 % 2 = 1, word % Nat.pow 2 63, Nat.mod_lt _ (by decide)⟩

/-- Positive or negative zero. -/
def zero (negative : Bool) : Binary64 := ⟨negative, 0, by decide⟩

/-- Positive or negative infinity. -/
def infinity (negative : Bool) : Binary64 := ⟨negative, infiniteMagnitude, by decide⟩

/-- What an operation without a meaningful result gives. -/
def undefinedNumber : Binary64 := ⟨true, infiniteMagnitude + Nat.pow 2 51, by decide⟩

instance : Inhabited Binary64 := ⟨zero false⟩

/-- The double is not a number. -/
def isNaN (x : Binary64) : Bool := infiniteMagnitude < x.magnitude

/-- The double is one of the infinities. -/
def isInfinite (x : Binary64) : Bool := x.magnitude = infiniteMagnitude

/-- The double is a number and no infinity. -/
def isFinite (x : Binary64) : Bool := x.magnitude < infiniteMagnitude

/-- The double is positive or negative zero. -/
def isZero (x : Binary64) : Bool := x.magnitude = 0

/-- The same double with the other sign. -/
def neg (x : Binary64) : Binary64 := { x with negative := !x.negative }

/-- The units in the absolute value of a finite double of a given magnitude. -/
def magnitudeUnits (magnitude : Nat) : Nat :=
  let exponent := magnitude / Nat.pow 2 52
  let fraction := magnitude % Nat.pow 2 52
  if exponent = 0 then fraction else (Nat.pow 2 52 + fraction) * Nat.pow 2 (exponent - 1)

/-- The units in a finite double. -/
def units (x : Binary64) : Int :=
  if x.negative then -(magnitudeUnits x.magnitude : Int) else magnitudeUnits x.magnitude

/-- The exact value of a finite double. -/
def value (x : Binary64) : Rat :=
  (x.units : Rat) / (Nat.pow 2 unitExponent : Nat)

/-- The place of a double in the order: its signed magnitude. Both zeros share one place. -/
def place (x : Binary64) : Int :=
  if x.negative then -(x.magnitude : Int) else x.magnitude

/-- Equality as numbers: the zeros are equal, and what is not a number equals nothing. -/
def eq (x y : Binary64) : Bool :=
  !x.isNaN && !y.isNaN && x.place = y.place

/-- Strict order as numbers: what is not a number is below and above nothing. -/
def lt (x y : Binary64) : Bool :=
  !x.isNaN && !y.isNaN && x.place < y.place

/-- Weak order as numbers. -/
def le (x y : Binary64) : Bool :=
  !x.isNaN && !y.isNaN && x.place ≤ y.place

end Binary64

end Polyphony
