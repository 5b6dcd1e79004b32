import Polyphony.Ratio.Arithmetic
import Polyphony.Text.Blank
import Polyphony.Text.Digit

/-!
# Reading ratios

A ratio is written as an integer, or as two integers with a slash or a bar between them. Blanks may
stand around each integer. An integer is a run of digits of any script, perhaps after a minus sign
that touches it. What is read is in lowest terms.
-/

namespace Polyphony.Ratio

open Text

/-- The characters that separate the two integers. -/
def isBar (c : Char) : Bool := c = '/' || c = '|'

/-- Reads a run of digits at the front of a text. -/
def readDigits? (cs : List Char) : Option (Nat × List Char) :=
  match cs.takeWhile isDigit with
  | [] => none
  | ds => some (digitsValue ds, cs.dropWhile isDigit)

/-- Reads an integer at the front of a text. -/
def readInteger? : List Char → Option (Int × List Char)
  | '-' :: cs => (readDigits? cs).map fun (n, rest) => (-(n : Int), rest)
  | cs => (readDigits? cs).map fun (n, rest) => ((n : Int), rest)

/-- Reads the part after the first integer: nothing, or a bar and a second integer. The absent
integer counts as one. -/
def readDenominator? (cs : List Char) : Option Int :=
  match cs.dropWhile isBlank with
  | [] => some 1
  | c :: rest =>
    if isBar c then
      match readInteger? (rest.dropWhile isBlank) with
      | some (denom, rest) => if rest.all isBlank then some denom else none
      | none => none
    else none

/-- The two integers that a text spells. -/
def readPair? (cs : List Char) : Option (Int × Int) := do
  let (numer, rest) ← readInteger? (cs.dropWhile isBlank)
  let denom ← readDenominator? rest
  return (numer, denom)

example : readPair? " 3 | -12 ".toList = some (3, -12) := by decide +kernel

example : readPair? "- 3".toList = none := by decide +kernel

/-- Reads a ratio from a text. -/
def ofText (s : String) : Except Fault Ratio :=
  match readPair? s.toList with
  | some (numer, denom) => reduced numer denom
  | none => throw (.unreadableRatio (.text s))

/-- Reads a ratio from a datum: a text, or an integer. -/
def ofDatum : Datum → Except Fault Ratio
  | .text s => ofText s
  | .int k => reduced k 1
  | datum => throw (.unreadableRatio datum)

end Polyphony.Ratio
