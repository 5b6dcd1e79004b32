import Polyphony.Fault

/-!
# Texts and lists as sequences

Texts are joined to texts and lists to lists, and both are repeated by integers; a negative count
leaves nothing. Counts and sizes have limits.
-/

namespace Polyphony.Datum

/-- The integer that a datum is: truth values count as zero and one. -/
def integer? : Datum → Option Int
  | int k => some k
  | bool b => some (if b then 1 else 0)
  | _ => none

/-- The largest count and size of a sequence. -/
def largestSize : Nat := Nat.pow 2 63 - 1

/-- The size up to which a sequence is made. -/
def memorySize : Nat := Nat.pow 2 40

/-- The count of a repetition. -/
def repetitions (count : Int) : Except Fault Nat :=
  if -(Nat.pow 2 63 : Int) ≤ count ∧ count ≤ largestSize then pure count.toNat
  else throw .countTooLarge

/-- Repeats a sequence. -/
def repeated (count : Int) : Datum → Except Fault Datum
  | text s => do
    let count ← repetitions count
    if largestSize < s.length * count then throw .textTooLong
    if memorySize < s.length * count then throw .outOfMemory
    return text (String.ofList (List.replicate (if s.isEmpty then 0 else count) s.toList).flatten)
  | list items => do
    let count ← repetitions count
    if memorySize < items.length * count then throw .outOfMemory
    return list (List.replicate (if items.isEmpty then 0 else count) items).flatten
  | datum => throw (.notRepeatable datum.typeName)

end Polyphony.Datum
