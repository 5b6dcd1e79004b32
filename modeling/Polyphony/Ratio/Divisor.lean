/-!
# Common divisors and multiples

Greatest common divisors by repeated division, and least common multiples. Both are non-negative
for integers of any sign.
-/

namespace Polyphony

/-- Repeated division: the second number is replaced by the rest of the first. -/
def divisorLoop (left right : Nat) : Nat :=
  if right = 0 then left else divisorLoop right (left % right)
termination_by right
decreasing_by exact Nat.mod_lt _ (by omega)

/-- The greatest common divisor, zero only for two zeros. -/
def commonDivisor (left right : Int) : Int :=
  divisorLoop left.natAbs right.natAbs

/-- The least common multiple, zero when either number is zero. -/
def commonMultiple (left right : Int) : Int :=
  if left = 0 ∨ right = 0 then 0
  else ((left * right).natAbs : Int).fdiv (commonDivisor left right)

end Polyphony
