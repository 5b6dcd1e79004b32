import Polyphony.Number.Basic
import Polyphony.Ratio.Arithmetic

/-!
# Arithmetic on numbers

Integers calculate exactly; where a double takes part, an integer first becomes the nearest double.
A quotient is always a double: that of integers is rounded once.
-/

namespace Polyphony.Number

/-- The nearest double. -/
def toBinary64 : Number → Except Fault Binary64
  | integer k =>
    match Binary64.ofInt? k with
    | some x => pure x
    | none => throw .integerTooLarge
  | double x => pure x

/-- Calculates exactly with integers and with doubles otherwise. -/
def calculate (exact : Int → Int → Int) (rounded : Binary64 → Binary64 → Binary64) :
    Number → Number → Except Fault Number
  | integer k, integer l => pure (integer (exact k l))
  | x, y => do return double (rounded (← x.toBinary64) (← y.toBinary64))

/-- The sum. -/
def add : Number → Number → Except Fault Number := calculate (· + ·) Binary64.add

/-- The difference. -/
def sub : Number → Number → Except Fault Number := calculate (· - ·) Binary64.sub

/-- The product. -/
def mul : Number → Number → Except Fault Number := calculate (· * ·) Binary64.mul

/-- The quotient. -/
def div : Number → Number → Except Fault Number
  | integer k, integer l => double <$> Ratio.toBinary64 ⟨k, l⟩
  | x, y => do
    let x ← x.toBinary64
    let y ← y.toBinary64
    if y.isZero then throw .zeroDoubleDivisor
    return double (x.div y)

/-- The negative. -/
def neg : Number → Number
  | integer k => integer (-k)
  | double x => double x.neg

end Polyphony.Number
