import Polyphony.Number.Arithmetic
import Polyphony.Ratio.Order
import Polyphony.Ratio.Reader

/-!
# Operands

What takes part in a calculation: a ratio or a datum. Beside a ratio only another ratio or an
integer counts; truth values and doubles do not.
-/

namespace Polyphony

/-- A ratio or a datum. -/
inductive Operand where
  | ratio (r : Ratio)
  | datum (d : Datum)
deriving DecidableEq

namespace Operand

/-- The name of an operand's type. -/
def typeName : Operand → String
  | ratio _ => "Rational"
  | datum d => d.typeName

/-- An operand on its own. -/
def display : Operand → String
  | ratio r => r.text
  | datum d => d.display

/-- The ratio that an operand counts as. -/
def ratio? : Operand → Option Ratio
  | ratio r => some r
  | datum (.int k) => some (.ofInt k)
  | datum _ => none

/-- The number that an operand is. -/
def number? : Operand → Option Number
  | ratio _ => none
  | datum d => d.number?

/-- The operand of a number. -/
def ofNumber : Number → Operand
  | .integer k => datum (.int k)
  | .double x => datum (.float x)

/-- The ratio that an operand gives as a length: a ratio as it is written, a datum read. -/
def toRatio : Operand → Except Fault Ratio
  | ratio r => pure r
  | datum d => Ratio.ofDatum d

/-- The ratio that an operand gives in lowest terms. -/
def toReduced : Operand → Except Fault Ratio
  | ratio r => Ratio.reduced r.numer r.denom
  | datum d => Ratio.ofDatum d

/-- The nearest double of a ratio. -/
def toBinary64 : Operand → Except Fault Binary64
  | ratio r => r.toBinary64
  | datum d => throw (.noView d.typeName "float_value")

/-- The lowest terms of a ratio, from its exact value. -/
def toCanonical : Operand → Except Fault Ratio
  | ratio r => r.canonical
  | datum d => throw (.noView d.typeName "as_fraction")

end Operand

end Polyphony
