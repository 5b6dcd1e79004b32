import Polyphony.Datum.Sequence
import Polyphony.Operand.Order

/-!
# Arithmetic on operands

Numbers calculate as numbers, ratios with ratios and integers as ratios, and texts and lists are
joined and repeated. Any other pair of operands is a fault that blames their types.
-/

namespace Polyphony.Operand

/-- Calculates with numbers or with ratios, or blames the types of the operands. -/
def calculate (operator : String) (onNumbers : Number → Number → Except Fault Number)
    (onRatios : Ratio → Ratio → Except Fault Ratio) (left right : Operand) :
    Except Fault Operand :=
  match left.number?, right.number? with
  | some x, some y => ofNumber <$> onNumbers x y
  | _, _ =>
    match left.ratio?, right.ratio? with
    | some l, some r => ratio <$> onRatios l r
    | _, _ => throw (.operands operator left.typeName right.typeName)

/-- The sum of operands, or two sequences of one type joined. -/
def add (left right : Operand) : Except Fault Operand :=
  match left, right with
  | datum (.text s), datum (.text t) => pure (datum (.text (s ++ t)))
  | datum (.list as), datum (.list bs) => pure (datum (.list (as ++ bs)))
  | datum (.text _), _ | datum (.list _), _ =>
    throw (.notJoinable left.typeName right.typeName)
  | _, _ => calculate "+" Number.add Ratio.add left right

/-- The difference of operands. -/
def sub : Operand → Operand → Except Fault Operand :=
  calculate "-" Number.sub Ratio.sub

/-- A sequence repeated by another operand, which must be an integer. -/
def repeated (sequence : Datum) (count : Operand) : Except Fault Operand :=
  match count with
  | datum d =>
    match d.integer? with
    | some k => datum <$> sequence.repeated k
    | none => throw (.notRepeatable d.typeName)
  | ratio _ => throw (.notRepeatable count.typeName)

/-- The product of operands, or a sequence repeated. -/
def mul (left right : Operand) : Except Fault Operand :=
  match left, right with
  | datum (.text s), count => repeated (.text s) count
  | datum (.list as), count => repeated (.list as) count
  | count, datum (.text s) => repeated (.text s) count
  | count, datum (.list as) => repeated (.list as) count
  | _, _ => calculate "*" Number.mul Ratio.mul left right

/-- The quotient of operands. -/
def div : Operand → Operand → Except Fault Operand :=
  calculate "/" Number.div Ratio.div

/-- The negative of an operand. -/
def neg : Operand → Except Fault Operand
  | ratio r => ratio <$> r.neg
  | datum d =>
    match d.number? with
    | some x => pure (ofNumber x.neg)
    | none => throw (.noNegative d.typeName)

/-- The integer that an operand is, for a calculation on absolute values. -/
def toMagnitude : Operand → Except Fault Int
  | ratio r => throw (.noMagnitude (ratio r).typeName)
  | datum d =>
    match d.integer? with
    | some k => pure k
    | none => throw (.noMagnitude d.typeName)

/-- The greatest common divisor of operands that are integers. -/
def commonDivisor (left right : Operand) : Except Fault Int := do
  let k ← left.toMagnitude
  let l ← right.toMagnitude
  return Polyphony.commonDivisor k l

/-- The least common multiple of operands that are integers. Nothing is asked of the other operand
of a zero, and the product of all others must have an absolute value. -/
def commonMultiple (left right : Operand) : Except Fault Int := do
  if ← left.eq (datum (.int 0)) then return 0
  if ← right.eq (datum (.int 0)) then return 0
  let product ← left.mul right
  let _ ← product.toMagnitude
  let k ← left.toMagnitude
  let l ← right.toMagnitude
  return Polyphony.commonMultiple k l

/-- The ratio of operands that are integers, in lowest terms. -/
def reduced (left right : Operand) : Except Fault Ratio := do
  if ← right.eq (datum (.int 0)) then throw (.zeroBelowOperand left.display right.display)
  let k ← left.toMagnitude
  let l ← right.toMagnitude
  Ratio.reduced k l

end Polyphony.Operand
