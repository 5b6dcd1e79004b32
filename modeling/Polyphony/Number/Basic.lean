import Polyphony.Binary64.Basic

/-!
# Numbers

A number is an integer or a double. Both kinds have one order, by exact value; a double that is not
a number has no place in it.
-/

namespace Polyphony

/-- An integer or a double. -/
inductive Number where
  | integer (k : Int)
  | double (x : Binary64)
deriving DecidableEq

namespace Number

/-- How an integer stands to a double, if the double is a number. -/
def orderInteger (k : Int) (x : Binary64) : Option Ordering :=
  if x.isNaN then none
  else if x.isInfinite then some (if x.negative then .gt else .lt)
  else some (compare (k * Nat.pow 2 Binary64.unitExponent) x.units)

/-- How a number stands to another one. -/
def order : Number → Number → Option Ordering
  | integer k, integer l => some (compare k l)
  | integer k, double y => orderInteger k y
  | double x, integer l => (orderInteger l x).map Ordering.swap
  | double x, double y => if x.isNaN || y.isNaN then none else some (compare x.place y.place)

/-- Equality by value. What is not a number equals nothing. -/
def eq (x y : Number) : Bool :=
  x.order y = some .eq

end Number

end Polyphony
