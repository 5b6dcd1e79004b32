import Polyphony.Binary64.Rounding
import Polyphony.Text.Integer

/-!
# Doubles in texts

A double is read from a text as an optional sign and digits, with a point before, among or after
them, and an optional power of ten; or as one of the words for an infinity and for what is not a
number. Blanks may stand around it.
-/

namespace Polyphony.Binary64

/-- What is not a number, with a sign. -/
def undefinedWith (negative : Bool) : Binary64 :=
  { undefinedNumber with negative }

/-- The power of ten at the end of a numeral; nothing counts as zero. -/
def powerOfTen? : List Char → Option Int
  | [] => some 0
  | e :: cs =>
    if e = 'e' || e = 'E' then
      let digits := match cs with
        | '-' :: ds | '+' :: ds => ds
        | ds => ds
      if !digits.isEmpty && digits.all Text.isDigit then
        let size := Text.digitsValue digits
        some (if cs.head? = some '-' then -(size : Int) else size)
      else none
    else none

/-- The double of a numeral without its sign. -/
def ofNumeral? (negative : Bool) (cs : List Char) : Option Binary64 := do
  let whole := cs.takeWhile Text.isDigit
  let rest := cs.dropWhile Text.isDigit
  let (places, rest) := match rest with
    | '.' :: ds => (ds.takeWhile Text.isDigit, ds.dropWhile Text.isDigit)
    | ds => ([], ds)
  if whole.isEmpty && places.isEmpty then none
  let power ← powerOfTen? rest
  return ofDecimal negative (Text.digitsValue (whole ++ places)) (power - places.length)

/-- The double that a text spells without its sign. -/
def ofUnsigned? (negative : Bool) (cs : List Char) : Option Binary64 :=
  let word := String.ofList (cs.map Char.toLower)
  if word = "inf" || word = "infinity" then some (infinity negative)
  else if word = "nan" then some (undefinedWith negative)
  else ofNumeral? negative cs

/-- The double that a text spells. -/
def ofText? (s : String) : Option Binary64 :=
  match Text.trim Text.isMargin s.toList with
  | '-' :: cs => ofUnsigned? true cs
  | '+' :: cs => ofUnsigned? false cs
  | cs => ofUnsigned? false cs

example : ofText? " 1e3 " = some (ofDecimal false 1000 0) := by decide +kernel

example : ofText? "1.5x" = none := by decide +kernel

end Polyphony.Binary64
