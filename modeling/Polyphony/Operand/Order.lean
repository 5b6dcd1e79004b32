import Polyphony.Datum.Order
import Polyphony.Operand.Basic

/-!
# Order of operands

Data are compared as data; a ratio is compared with ratios and integers by exact value. A ratio is
unequal to any other datum and has no order with it.
-/

namespace Polyphony.Operand

/-- A test on ratios. -/
def ratioTest : Comparison → Ratio → Ratio → Except Fault Bool
  | .lt => Ratio.lt
  | .le => Ratio.le
  | .gt => Ratio.gt
  | .ge => Ratio.ge

/-- Compares operands by a test, or blames their types. -/
def compareBy (test : Comparison) (left right : Operand) : Except Fault Bool :=
  match left, right with
  | datum a, datum b => a.compareBy test b
  | left, right =>
    match left.ratio?, right.ratio? with
    | some l, some r => ratioTest test l r
    | _, _ => throw (.unordered test.sign left.typeName right.typeName)

/-- The left operand is below the right one. -/
def lt (left right : Operand) : Except Fault Bool := compareBy .lt left right

/-- The left operand is not above the right one. -/
def le (left right : Operand) : Except Fault Bool := compareBy .le left right

/-- The left operand is above the right one. -/
def gt (left right : Operand) : Except Fault Bool := compareBy .gt left right

/-- The left operand is not below the right one. -/
def ge (left right : Operand) : Except Fault Bool := compareBy .ge left right

/-- Equality of operands. -/
def eq (left right : Operand) : Except Fault Bool :=
  match left, right with
  | datum a, datum b => pure (a.eq b)
  | left, right =>
    match left.ratio?, right.ratio? with
    | some l, some r => l.eq r
    | _, _ => pure false

end Polyphony.Operand
