import Polyphony.Binary64.Rounding

/-!
# Doubles in decimal

Two written forms: the shortest numeral that reads back as the same double, and a numeral with a
fixed number of places. Both are decided on exact integers.
-/

namespace Polyphony.Binary64

/-- The sign of a written double. -/
def signText (x : Binary64) : String :=
  if x.negative then "-" else ""

/-- The decimal exponent of a nonzero finite double, given by its units: the power of ten of its
first digit. -/
def decimalExponent (units : Nat) : Int :=
  ((Nat.toDigits 10 (units * Nat.pow 10 340 / Nat.pow 2 unitExponent)).length : Int) - 341

/-- A numeral without sign: digits, first one nonzero, times a power of ten. -/
structure Numeral where
  /-- The digits as one number. -/
  digits : Nat
  /-- The power of ten of the last digit. -/
  exponent : Int

/-- The numeral reads back as a given magnitude. -/
def Numeral.reads (n : Numeral) (magnitude : Nat) : Bool :=
  (ofDecimal false n.digits n.exponent).magnitude = magnitude

/-- Of the two numerals of `size` digits around a value, the nearer one that reads back; a half
goes to the even one. -/
def numeralOfSize? (magnitude size : Nat) : Option Numeral :=
  let units := magnitudeUnits magnitude
  let exponent := decimalExponent units - size + 1
  let numer := units * Nat.pow 10 (-exponent).toNat
  let denom := Nat.pow 2 unitExponent * Nat.pow 10 exponent.toNat
  let below : Numeral := ⟨numer / denom, exponent⟩
  let above : Numeral := ⟨numer / denom + 1, exponent⟩
  let nearest : Numeral := ⟨roundQuotient numer denom, exponent⟩
  if nearest.reads magnitude then some nearest
  else if below.reads magnitude then some below
  else if above.reads magnitude then some above
  else none

/-- The shortest numeral that reads back; seventeen digits are always enough. -/
def shortestNumeral (magnitude : Nat) : Numeral :=
  ((List.range 17).findSome? fun k => numeralOfSize? magnitude (k + 1)).getD ⟨0, 0⟩

/-- Digits with a point after the first `whole` of them, zeros filled in on either side. At least
one digit stands on each side of the point. -/
def pointed (digits : List Char) (whole : Int) : String :=
  let padding := List.replicate (1 - whole).toNat '0'
  let padded := padding ++ digits
  let size := if whole ≤ 0 then 1 else whole.toNat
  let front := padded.take size
  let back := padded.drop size
  String.ofList (front ++ List.replicate (size - front.length) '0' ++ '.' ::
    (if back.isEmpty then ['0'] else back))

/-- Digits as a mantissa with an exponent of at least two digits. -/
def scientific (digits : List Char) (exponent : Int) : String :=
  let mantissa := match digits with
    | [] => []
    | [d] => [d]
    | d :: ds => d :: '.' :: ds
  let size := Nat.toDigits 10 exponent.natAbs
  String.ofList (mantissa ++ 'e' :: (if exponent < 0 then '-' else '+') ::
    (List.replicate (2 - size.length) '0' ++ size))

/-- The shortest text that reads back: positional while the first digit stands between the fourth
place after the point and the sixteenth before it, otherwise with an exponent. -/
def shown (x : Binary64) : String :=
  if x.isNaN then "nan"
  else if x.isInfinite then x.signText ++ "inf"
  else if x.isZero then x.signText ++ "0.0"
  else
    let numeral := shortestNumeral x.magnitude
    let digits := Nat.toDigits 10 numeral.digits
    let exponent := numeral.exponent + digits.length - 1
    let significant := (digits.reverse.dropWhile (· = '0')).reverse
    x.signText ++
      if -4 ≤ exponent ∧ exponent < 16 then pointed significant (exponent + 1)
      else scientific significant exponent

example : (ofWord 0x3FB999999999999A).shown = "0.1" := by decide +kernel

example : (ofWord 0x4341C37937E08000).shown = "1e+16" := by decide +kernel

example : (ofWord 1).shown = "5e-324" := by decide +kernel

example : (zero true).shown = "-0.0" := by decide +kernel

/-- The text with a fixed, positive number of places, correctly rounded. -/
def fixed (places : Nat) (x : Binary64) : String :=
  if x.isNaN then "nan"
  else if x.isInfinite then x.signText ++ "inf"
  else
    let scaled := roundQuotient (x.units.natAbs * Nat.pow 10 places) (Nat.pow 2 unitExponent)
    let digits := Nat.toDigits 10 scaled
    let padded := List.replicate (places + 1 - digits.length) '0' ++ digits
    let whole := padded.length - places
    x.signText ++ String.ofList (padded.take whole ++ '.' :: padded.drop whole)

example : (ofWord 0x3F40624DD2F1A9FC).fixed 3 = "0.001" := by decide +kernel

example : (ofWord 0x3FC0000000000000).fixed 2 = "0.12" := by decide +kernel

end Polyphony.Binary64
