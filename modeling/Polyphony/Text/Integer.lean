import Polyphony.Text.Blank
import Polyphony.Text.Digit

/-!
# Integers in texts

An integer is read from a text as an optional sign and a run of digits of any script, in which
single underscores may separate digits, with blanks around it. The information separators do not
count as blanks here. In other bases than ten letters may be digits, and a zero with a letter may
show the base.
-/

namespace Polyphony.Text

/-- The blanks that may surround an integer. -/
def isMargin (c : Char) : Bool :=
  isBlank c && !(0x1C ≤ c.toNat && c.toNat ≤ 0x1F)

/-- The value of a digit of a base: a decimal digit of any script, or a letter. -/
def digitOf? (base : Nat) (c : Char) : Option Nat :=
  ((digitValue? c).or (digitIn? base c)).filter (· < base)

/-- The number that further digits make of `n`; a single underscore may stand before a digit. -/
def extendNatural (base n : Nat) : List Char → Option Nat
  | [] => some n
  | '_' :: c :: cs => (digitOf? base c).bind fun v => extendNatural base (base * n + v) cs
  | c :: cs => (digitOf? base c).bind fun v => extendNatural base (base * n + v) cs

/-- A run of digits with single underscores between them. -/
def natural? (base : Nat) : List Char → Option Nat
  | [] => none
  | c :: cs => (digitOf? base c).bind fun v => extendNatural base v cs

/-- The letters that show a base after a zero. -/
def baseLetters (base : Nat) : List Char :=
  if base = 2 then ['b', 'B'] else if base = 8 then ['o', 'O']
  else if base = 16 then ['x', 'X'] else []

/-- Drops a zero and a letter that show the base, and one underscore after them. -/
def dropBase (base : Nat) (cs : List Char) : List Char :=
  match cs with
  | '0' :: letter :: rest =>
    if (baseLetters base).contains letter then
      if rest.head? = some '_' then rest.tail else rest
    else cs
  | _ => cs

/-- An optional sign and a run of digits. -/
def signed? (base : Nat) : List Char → Option Int
  | '-' :: cs => (natural? base (dropBase base cs)).map fun n => -(n : Int)
  | '+' :: cs => (natural? base (dropBase base cs)).map Int.ofNat
  | cs => (natural? base (dropBase base cs)).map Int.ofNat

/-- The integer that a text spells in a base. -/
def integerIn? (base : Nat) (s : String) : Option Int :=
  signed? base (trim isMargin s.toList)

/-- The integer that a text spells. -/
def integer? (s : String) : Option Int := integerIn? 10 s

example : integer? " -1_0 " = some (-10) := by decide +kernel

example : integer? "1__0" = none := by decide +kernel

example : integerIn? 16 "-0xFf" = some (-255) := by decide +kernel

end Polyphony.Text
