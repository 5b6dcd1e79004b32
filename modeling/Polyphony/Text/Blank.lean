/-!
# Blank characters

The characters that separate words: ASCII blanks, the four information separators, and the
spaces and line separators of Unicode. Every blank of the ASCII class is one of them.
-/

namespace Polyphony.Text

/-- Runs of blank characters, each by its first and last code point. -/
def blankRuns : List (Nat × Nat) := [
  (0x0009, 0x000D), (0x001C, 0x0020), (0x0085, 0x0085), (0x00A0, 0x00A0), (0x1680, 0x1680),
  (0x2000, 0x200A), (0x2028, 0x2029), (0x202F, 0x202F), (0x205F, 0x205F), (0x3000, 0x3000)
]

/-- A character is blank when it lies in one of the runs. -/
def isBlank (c : Char) : Bool :=
  blankRuns.any fun run => run.1 ≤ c.toNat && c.toNat ≤ run.2

/-- Drops the characters of a kind at both ends. -/
def trim (kind : Char → Bool) (cs : List Char) : List Char :=
  ((cs.dropWhile kind).reverse.dropWhile kind).reverse

/-- The characters that are blank number twenty-nine. -/
example : (blankRuns.map fun run => run.2 - run.1 + 1).sum = 29 := by decide

end Polyphony.Text
