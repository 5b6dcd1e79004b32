import Polyphony.Fault
import Polyphony.Ratio.Divisor

/-!
# Arithmetic on ratios

Sums, products, negatives and quotients. Every result is in lowest terms with a positive integer
below the line, however its operands were written, and an operand without a value gives a fault.
-/

namespace Polyphony.Ratio

/-- The ratio of two integers in lowest terms. -/
def reduced (numer denom : Int) : Except Fault Ratio :=
  if denom = 0 then
    throw (.zeroBelow numer)
  else
    let divisor := commonDivisor numer denom
    let divisor := if denom < 0 then -divisor else divisor
    pure ⟨numer.fdiv divisor, denom.fdiv divisor⟩

/-- The sum, over the least common multiple of the integers below the line. -/
def add (left right : Ratio) : Except Fault Ratio :=
  let common := commonMultiple left.denom right.denom
  if common = 0 then
    throw .undefinedSummand
  else
    reduced (left.numer * common.fdiv left.denom + right.numer * common.fdiv right.denom) common

/-- The negative. -/
def neg (r : Ratio) : Except Fault Ratio :=
  reduced (-r.numer) r.denom

/-- The difference: the sum with the negative of the right operand. -/
def sub (left right : Ratio) : Except Fault Ratio := do
  left.add (← right.neg)

/-- The product. -/
def mul (left right : Ratio) : Except Fault Ratio :=
  reduced (left.numer * right.numer) (left.denom * right.denom)

/-- The quotient. -/
def div (left right : Ratio) : Except Fault Ratio :=
  if right.numer = 0 then
    throw (.zeroDivisor left)
  else
    reduced (left.numer * right.denom) (left.denom * right.numer)

/-- The nearest double. -/
def toBinary64 (r : Ratio) : Except Fault Binary64 :=
  if r.denom = 0 then
    throw .undefinedDouble
  else
    match Binary64.ofQuotient? r.numer r.denom with
    | some x => pure x
    | none => throw .ratioTooLarge

end Polyphony.Ratio
