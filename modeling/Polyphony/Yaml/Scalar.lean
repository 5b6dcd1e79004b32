import Polyphony.Binary64.Arithmetic
import Polyphony.Binary64.Reader
import Polyphony.Fault
import Polyphony.Text.Base64
import Polyphony.Yaml.Plain

/-!
# Scalars in documents

What the text of a scalar spells, given its kind. Underscores inside numbers do not count. A text
that a tag calls a number, a truth value or a moment need not be one.
-/

namespace Polyphony.Yaml

/-- The truth value that a word stands for, whatever the size of its letters. -/
def readTruth (s : String) : Except Fault Bool :=
  let word := String.ofList (s.toList.map Char.toLower)
  if word ∈ ["yes", "true", "on"] then pure true
  else if word ∈ ["no", "false", "off"] then pure false
  else throw (.unknownTruth word)

/-- The text of a number without its underscores. -/
def dropLines (s : String) : List Char := s.toList.filter fun c => c ≠ '_'

/-- Splits off a sign; true for a minus. Something must stand there. -/
def splitSign (cs : List Char) : Except Fault (Bool × List Char) :=
  if cs.isEmpty then throw .noCharacter
  else pure (cs.head? = some '-', dropSign cs)

/-- The integer of digits in a base. -/
def integerIn (base : Nat) (cs : List Char) : Except Fault Int :=
  let s := String.ofList cs
  match Text.integerIn? base s with
  | some k => pure k
  | none => throw (.unreadableInteger base (Text.quoted s))

/-- The integer of a text without its sign. -/
def readUnsigned (cs : List Char) : Except Fault Int :=
  match cs with
  | [] => throw .noCharacter
  | ['0'] => pure 0
  | '0' :: 'b' :: ds => integerIn 2 ds
  | '0' :: 'x' :: ds => integerIn 16 ds
  | '0' :: _ => integerIn 8 cs
  | _ => do
    let groups ← (splitColons cs).mapM (integerIn 10)
    return groups.foldl (fun n group => 60 * n + group) 0

/-- The integer that a text spells. -/
def readInteger (s : String) : Except Fault Int := do
  let (negative, rest) ← splitSign (dropLines s)
  let k ← readUnsigned rest
  return if negative then -k else k

/-- The double of a numeral. -/
def readNumeral (cs : List Char) : Except Fault Binary64 :=
  let s := String.ofList cs
  match Binary64.ofText? s with
  | some x => pure x
  | none => throw (.unreadableDouble s)

/-- The sum of groups in base sixty from the last one on, given the sum and the power of sixty
before it. Powers and sums are doubles. -/
def sumSixtieths (sum : Binary64) (power : Nat) : List Binary64 → Except Fault Binary64
  | [] => pure sum
  | group :: groups =>
    match Binary64.ofInt? power with
    | some factor => sumSixtieths (sum.add (group.mul factor)) (60 * power) groups
    | none => throw .integerTooLarge

/-- The double of a text without its sign, in groups of sixty or not. -/
def readGroups (cs : List Char) : Except Fault Binary64 :=
  if cs.contains ':' then do
    let groups ← (splitColons cs).mapM readNumeral
    sumSixtieths (.zero false) 1 groups.reverse
  else readNumeral cs

/-- The double that a text spells. A minus multiplies by minus one. -/
def readDouble (s : String) : Except Fault Binary64 := do
  let (negative, rest) ← splitSign ((dropLines s).map Char.toLower)
  if rest = ".inf".toList then return .infinity negative
  if rest = ".nan".toList then return .undefinedNumber
  return (Binary64.ofDecimal negative 1 0).mul (← readGroups rest)

/-- The moment that a text spells. -/
def readMoment (s : String) : Except Fault Moment :=
  match moment? s.toList with
  | none => throw (.noView Scalar.null.typeName "groupdict")
  | some moment =>
    match moment.flaw? with
    | some flaw => throw (.noMoment flaw)
    | none => pure moment

/-- The bytes that a text in ASCII spells. -/
def readBytes (s : String) : Except Fault (List UInt8) :=
  match if s.toList.all fun c => c.toNat < 0x80 then Text.bytes? s else none with
  | some data => pure data
  | none => throw .malformedDocument

/-- The scalar of a kind that a text spells. -/
def Kind.scalar (kind : Kind) (s : String) : Except Fault Scalar :=
  match kind with
  | .null => pure .null
  | .truth => Scalar.bool <$> readTruth s
  | .integer => Scalar.int <$> readInteger s
  | .double => Scalar.float <$> readDouble s
  | .text => pure (.text s)
  | .moment => Scalar.moment <$> readMoment s
  | .bytes => Scalar.bytes <$> readBytes s
  | _ => throw .malformedDocument

end Polyphony.Yaml
