import Polyphony.Fault
import Polyphony.Text.Integer

/-!
# Integers from data

The integer that a datum stands for: an integer itself, a truth value as zero or one, a double cut
toward zero, or a text or bytes that spell an integer.
-/

namespace Polyphony

/-- The integer part of a double. -/
def Binary64.toInteger (x : Binary64) : Except Fault Int :=
  if x.isNaN then throw .undefinedInteger
  else if x.isInfinite then throw .infiniteInteger
  else pure x.integerPart

/-- The integer that bytes spell in ASCII. -/
def integerOfBytes? (data : List UInt8) : Option Int :=
  if data.all (· < 0x80) then
    Text.integer? (String.ofList (data.map fun byte => Char.ofNat byte.toNat))
  else none

/-- The integer that a datum stands for. -/
def Datum.toInteger : Datum → Except Fault Int
  | .int k => pure k
  | .bool b => pure (if b then 1 else 0)
  | .float x => x.toInteger
  | .text s =>
    match Text.integer? s with
    | some k => pure k
    | none => throw (.unreadableInteger 10 (Text.quoted s))
  | .scalar (.bytes data) =>
    match integerOfBytes? data with
    | some k => pure k
    | none => throw (.unreadableInteger 10 (Text.quotedBytes data))
  | datum => throw (.notIntegral datum.typeName)

end Polyphony
