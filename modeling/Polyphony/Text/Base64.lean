import Polyphony.Text.Digit

/-!
# Bytes in sixty-four digits

Bytes are written with four digits for three of them. Other characters between the digits do not
count; an equals sign fills an unfinished group up, and ends the text once the group is full.
-/

namespace Polyphony.Text

/-- The value of one of the sixty-four digits. -/
def sixtyFourth? (c : Char) : Option Nat :=
  if 'A' ≤ c ∧ c ≤ 'Z' then some (c.toNat - 'A'.toNat)
  else if 'a' ≤ c ∧ c ≤ 'z' then some (c.toNat - 'a'.toNat + 26)
  else if '0' ≤ c ∧ c ≤ '9' then some (c.toNat - '0'.toNat + 52)
  else if c = '+' then some 62
  else if c = '/' then some 63
  else none

/-- The digits that count, given the number of those in the unfinished group and of the equals
signs after the last one. -/
def countedDigits (size filled : Nat) : List Char → List Nat
  | [] => []
  | c :: cs =>
    if c = '=' then
      if size < 2 then countedDigits size filled cs
      else if 4 ≤ size + filled + 1 then []
      else countedDigits size (filled + 1) cs
    else
      match sixtyFourth? c with
      | some v => v :: countedDigits ((size + 1) % 4) 0 cs
      | none => countedDigits size filled cs

/-- An equals sign has filled the last group up, with the same numbers given. -/
def isFilled (size filled : Nat) : List Char → Bool
  | [] => size = 0
  | c :: cs =>
    if c = '=' then
      if size < 2 then isFilled size filled cs
      else 4 ≤ size + filled + 1 || isFilled size (filled + 1) cs
    else
      match sixtyFourth? c with
      | some _ => isFilled ((size + 1) % 4) 0 cs
      | none => isFilled size filled cs

/-- The bytes of groups of digits. A last group of two digits makes one byte, and one of three makes
two. -/
def bytesOfDigits : List Nat → List UInt8
  | a :: b :: c :: d :: digits =>
    .ofNat (4 * a + b / 16) :: .ofNat (b % 16 * 16 + c / 4) :: .ofNat (c % 4 * 64 + d) ::
      bytesOfDigits digits
  | [a, b, c] => [.ofNat (4 * a + b / 16), .ofNat (b % 16 * 16 + c / 4)]
  | [a, b] => [.ofNat (4 * a + b / 16)]
  | _ => []

/-- The bytes that a text spells, if its last group is full. -/
def bytes? (s : String) : Option (List UInt8) :=
  if isFilled 0 0 s.toList then some (bytesOfDigits (countedDigits 0 0 s.toList)) else none

example : bytes? "aGk=" = some [104, 105] := by decide +kernel

example : bytes? "aGk" = none := by decide +kernel

end Polyphony.Text
