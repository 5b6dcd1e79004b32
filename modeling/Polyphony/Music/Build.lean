import Polyphony.Datum.Integer
import Polyphony.Music.Basic
import Polyphony.Operand.Basic

/-!
# Building pieces

The checked ways to build a piece. Lengths and tempos may be given as ratios, which stay as they
are written, or as data that spell one; channels and tonics as data that stand for an integer.
-/

namespace Polyphony

namespace Music

variable {α : Type}

/-- A note. -/
def note (length : Operand) (payload : α) : Except Fault (Music α) := do
  return prim (.note (← length.toRatio) payload)

/-- A rest. -/
def rest (length : Operand) : Except Fault (Music α) := do
  return prim (.rest (← length.toRatio))

/-- The name of a node's kind. -/
def kindName : Music α → String
  | prim _ => "Prim"
  | seq .. => "Seq"
  | par .. => "Par"
  | modify .. => "Modify"
  | stray _ => "int"

/-- The node is a piece, and not a number in the place of one. -/
def isPiece : Music α → Bool
  | stray _ => false
  | _ => true

/-- One piece after another. Both sides must be pieces. -/
def followedBy (left right : Music α) : Except Fault (Music α) :=
  if left.isPiece && right.isPiece then pure (seq left right)
  else throw (.operands "+" left.kindName right.kindName)

/-- Two pieces together. Both sides must be pieces. -/
def together (left right : Music α) : Except Fault (Music α) :=
  if left.isPiece && right.isPiece then pure (par left right)
  else throw (.operands "|" left.kindName right.kindName)

/-- A piece played faster by a ratio. -/
def withTempo (ratio : Operand) (body : Music α) : Except Fault (Music α) := do
  return modify (← Control.checkedTempo (← ratio.toRatio)) body

/-- A piece shifted by semitones. -/
def transpose (steps : Int) (body : Music α) : Music α :=
  modify (.transpose steps) body

/-- A piece on a channel. -/
def onChannel (number : Datum) (body : Music α) : Except Fault (Music α) := do
  return modify (.instrument (← Channel.request (← number.toInteger))) body

/-- A piece in a key. -/
def inKey (modes : Modes) (tonic : Datum) (mode : String) (body : Music α) :
    Except Fault (Music α) := do
  let tonic ← PitchClass.ofInt (← tonic.toInteger)
  return modify (← Control.checkedKey modes tonic mode) body

/-- A piece as a phrase. -/
def phrase (attributes : List PhraseAttribute) (body : Music α) : Music α :=
  modify (.phrase attributes) body

/-- A piece under a directive. -/
def custom (directive : String) (body : Music α) : Music α :=
  modify (.custom directive) body

end Music

end Polyphony
