import Polyphony.Text.Printable

/-!
# Quoted texts

How a text is shown inside a message or a list of names: between single quotes, or between double
quotes when it holds a single quote and no double one. A backslash escapes the quote in use, itself
and whatever is not printable.
-/

namespace Polyphony.Text

/-- The single quote. -/
def singleQuote : Char := '\x27'

/-- The double quote. -/
def doubleQuote : Char := '\x22'

/-- The quote around a text. -/
def quoteFor (cs : List Char) : Char :=
  if cs.contains singleQuote && !cs.contains doubleQuote then doubleQuote else singleQuote

/-- A number in lower-case hexadecimal, filled with zeros up to a width. -/
def hexadecimal (width n : Nat) : List Char :=
  let digits := Nat.toDigits 16 n
  List.replicate (width - digits.length) '0' ++ digits

/-- One character between quotes of a given kind. -/
def escape (quote c : Char) : List Char :=
  if c = quote ∨ c = '\\' then ['\\', c]
  else if c = '\n' then ['\\', 'n']
  else if c = '\r' then ['\\', 'r']
  else if c = '\t' then ['\\', 't']
  else if isPrintable c then [c]
  else if c.toNat < 0x100 then '\\' :: 'x' :: hexadecimal 2 c.toNat
  else if c.toNat < 0x10000 then '\\' :: 'u' :: hexadecimal 4 c.toNat
  else '\\' :: 'U' :: hexadecimal 8 c.toNat

/-- A text between quotes. -/
def quoted (s : String) : String :=
  let quote := quoteFor s.toList
  String.ofList (quote :: (s.toList.flatMap (escape quote) ++ [quote]))

example : quoted "it's" = "\"it's\"" := by decide +kernel

example : quoted "tab\there" = "'tab\\there'" := by decide +kernel

example : quoted "\u00a0" = "'\\xa0'" := by decide +kernel

/-- One byte between quotes of a given kind; only ASCII characters stand for themselves. -/
def escapeByte (quote : Char) (byte : UInt8) : List Char :=
  if byte < 0x7F then escape quote (Char.ofNat byte.toNat)
  else '\\' :: 'x' :: hexadecimal 2 byte.toNat

/-- Bytes between quotes, after a letter that tells them from a text. -/
def quotedBytes (bytes : List UInt8) : String :=
  let quote := quoteFor (bytes.map fun byte => Char.ofNat byte.toNat)
  String.ofList ('b' :: quote :: (bytes.flatMap (escapeByte quote) ++ [quote]))

/-- Items between brackets, with a comma and a blank between neighbours. -/
def bracketed (items : List String) : String :=
  "[" ++ ", ".intercalate items ++ "]"

/-- A list of names: each one quoted, all between brackets. -/
def quotedList (names : List String) : String :=
  bracketed (names.map quoted)

end Polyphony.Text
