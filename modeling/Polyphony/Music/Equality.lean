import Polyphony.Music.Basic

/-!
# Equality of pieces

Two pieces are equal when they have the same shape and equal fields: ratios by value, further
numbers of notes as doubles, all else as it is. Fields are compared in order, and the first
difference decides; a ratio without a value that is reached before it gives a fault.
-/

namespace Polyphony

/-- Doubles are equal one by one. -/
def sameParams : List Binary64 → List Binary64 → Bool
  | [], [] => true
  | x :: xs, y :: ys => x.eq y && sameParams xs ys
  | _, _ => false

namespace NoteAttribute

/-- Equality of note attributes. -/
def eq : NoteAttribute → NoteAttribute → Bool
  | params xs, params ys => sameParams xs ys
  | a, b => a = b

/-- Equality of lists of note attributes. -/
def eqAll : List NoteAttribute → List NoteAttribute → Bool
  | [], [] => true
  | a :: as, b :: bs => a.eq b && eqAll as bs
  | _, _ => false

end NoteAttribute

/-- Equality of payloads. Payloads of different forms differ. -/
def Payload.eq : Payload → Payload → Bool
  | marked p as, marked q bs => p = q && NoteAttribute.eqAll as bs
  | a, b => a = b

namespace PhraseAttribute

/-- Equality of phrase attributes. -/
def eq : PhraseAttribute → PhraseAttribute → Except Fault Bool
  | accent x, accent y => x.eq y
  | crescendo x, crescendo y => x.eq y
  | diminuendo x, diminuendo y => x.eq y
  | staccato x, staccato y => x.eq y
  | legato x, legato y => x.eq y
  | _, _ => pure false

/-- Equality of lists of phrase attributes. -/
def eqAll : List PhraseAttribute → List PhraseAttribute → Except Fault Bool
  | [], [] => pure true
  | a :: as, b :: bs => do if ← a.eq b then eqAll as bs else pure false
  | _, _ => pure false

end PhraseAttribute

/-- Equality of controls. -/
def Control.eq : Control → Control → Except Fault Bool
  | tempo x, tempo y => x.eq y
  | phrase as, phrase bs => PhraseAttribute.eqAll as bs
  | a, b => pure (a = b)

/-- Equality of leaves. -/
def Primitive.eq : Primitive Payload → Primitive Payload → Except Fault Bool
  | note x p, note y q => do if ← x.eq y then pure (p.eq q) else pure false
  | rest x, rest y => x.eq y
  | _, _ => pure false

/-- Equality of pieces. -/
def Music.eq : Music Payload → Music Payload → Except Fault Bool
  | prim a, prim b => a.eq b
  | seq a b, seq c d => do if ← a.eq c then b.eq d else pure false
  | par a b, par c d => do if ← a.eq c then b.eq d else pure false
  | modify c a, modify d b => do if ← c.eq d then a.eq b else pure false
  | stray k, stray l => pure (k = l)
  | _, _ => pure false

end Polyphony
