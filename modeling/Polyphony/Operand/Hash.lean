import Polyphony.Operand.Order

/-!
# Hashes of operands

Equal operands have equal hashes, whatever their types, so the hash of a number or ratio depends on
its exact value alone: it is the value in the field of the residues modulo a prime. Lists and
mappings have no hash.
-/

namespace Polyphony

/-- The prime of numerical hashes. -/
def hashPrime : Nat := Nat.pow 2 61 - 1

/-- The hash of positive infinity, and of values without a residue. -/
def infinityHash : Nat := 314159

/-- A power modulo the prime, by squaring. -/
def powerResidue (base exponent : Nat) : Nat :=
  if exponent = 0 then 1
  else
    let square := powerResidue (base * base % hashPrime) (exponent / 2)
    if exponent % 2 = 0 then square else base * square % hashPrime

/-- The hash of a value: its residue, with its sign. Minus one counts as minus two. -/
def valueHash (x : Rat) : Int :=
  let size :=
    if x.den % hashPrime = 0 then infinityHash
    else x.num.natAbs * powerResidue (x.den % hashPrime) (hashPrime - 2) % hashPrime
  let hash := if x.num < 0 then -(size : Int) else size
  if hash = -1 then -2 else hash

/-- What an operand is looked up by. -/
inductive Hash where
  /-- The hash of a number, a ratio or the empty text. -/
  | residue (k : Int)
  /-- A text. -/
  | text (s : String)
  /-- A moment. -/
  | moment (m : Moment)
  /-- Bytes. -/
  | bytes (data : List UInt8)
  /-- Nothing. -/
  | null
  /-- A hash that no other operand has. -/
  | unique
deriving DecidableEq

namespace Hash

/-- The hash of a number. -/
def ofNumber : Number → Hash
  | .integer k => residue (valueHash k)
  | .double x =>
    if x.isNaN then unique
    else if x.isInfinite then residue (if x.negative then -infinityHash else infinityHash)
    else residue (valueHash x.value)

end Hash

namespace Operand

/-- The hash of an operand, if it has one. -/
def hash : Operand → Except Fault Hash
  | ratio r => do return .residue (valueHash (← r.value?))
  | datum .null => pure .null
  | datum (.text s) => pure (if s.isEmpty then .residue 0 else .text s)
  | datum (.scalar (.moment m)) => pure (.moment m)
  | datum (.scalar (.bytes data)) => pure (if data.isEmpty then .residue 0 else .bytes data)
  | datum d =>
    match d.number? with
    | some x => pure (.ofNumber x)
    | none => throw (.unhashable d.typeName)

end Operand

end Polyphony
