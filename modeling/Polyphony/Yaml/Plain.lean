import Polyphony.Text.Digit
import Polyphony.Yaml.Calendar

/-!
# Plain scalars

The kind of value that a plain scalar of a YAML 1.1 document shows: nothing, a truth value, an
integer, a double, a moment or its own text. Integers may be binary, octal, hexadecimal or in groups
of sixty; doubles need a point. Underscores may stand among the digits.
-/

namespace Polyphony.Yaml

open Text (digitIn?)

/-- The kind of a value, as a tag tells it or a plain text shows it. -/
inductive Kind where
  /-- Nothing. -/
  | null
  /-- A truth value. -/
  | truth
  /-- An integer. -/
  | integer
  /-- A double. -/
  | double
  /-- A text. -/
  | text
  /-- A day or a time. -/
  | moment
  /-- Bytes. -/
  | bytes
  /-- A list. -/
  | list
  /-- A mapping. -/
  | mapping
  /-- A list of pairs. -/
  | pairs
  /-- A set. -/
  | set
  /-- The key of mappings to merge. -/
  | merge
  /-- The key of a default value. -/
  | default
  /-- Any other kind, which no value has. -/
  | other
deriving DecidableEq

/-- What standard tags begin with. -/
def standardStem : String := "tag:yaml.org,2002:"

/-- The kinds of standard tags. -/
def standardKinds : List (String × Kind) := [
  ("null", .null), ("bool", .truth), ("int", .integer), ("float", .double), ("str", .text),
  ("timestamp", .moment), ("binary", .bytes), ("seq", .list), ("map", .mapping),
  ("omap", .pairs), ("pairs", .pairs), ("set", .set), ("merge", .merge), ("value", .default)
]

/-- The kind of a tag. -/
def Kind.ofTag (tag : String) : Kind :=
  ((standardKinds.find? fun entry => standardStem ++ entry.1 = tag).map (·.2)).getD .other

/-- A character that may stand in a number after its first digit. -/
def isDigitOrLine (base : Nat) (c : Char) : Bool :=
  c = '_' || (digitIn? base c).isSome

/-- Digits and underscores, at least one. -/
def isNatural (base : Nat) (cs : List Char) : Bool :=
  !cs.isEmpty && cs.all (isDigitOrLine base)

/-- A digit, and then digits and underscores. -/
def startsNatural (cs : List Char) : Bool :=
  isNatural 10 cs && cs.head? ≠ some '_'

/-- A group after the first of a number in base sixty: up to fifty-nine, in one or two digits. -/
def isSixtieth : List Char → Bool
  | [c] => c.isDigit
  | [c, d] => (digitIn? 6 c).isSome && d.isDigit
  | _ => false

/-- Splits a text at its colons. -/
def splitColons (cs : List Char) : List (List Char) :=
  cs.splitOn ':'

/-- Drops a sign. -/
def dropSign : List Char → List Char
  | '-' :: cs => cs
  | '+' :: cs => cs
  | cs => cs

/-- A plain text shows an integer. -/
def showsInteger (cs : List Char) : Bool :=
  match dropSign cs with
  | ['0'] => true
  | '0' :: 'b' :: ds => isNatural 2 ds
  | '0' :: 'x' :: ds => isNatural 16 ds
  | '0' :: ds => isNatural 8 ds
  | ds =>
    match splitColons ds with
    | first :: groups => startsNatural first && groups.all isSixtieth
    | [] => false

/-- A power of ten at the end of a double, which has a sign, or nothing. -/
def isPower : List Char → Bool
  | [] => true
  | e :: sign :: ds =>
    (e = 'e' || e = 'E') && (sign = '+' || sign = '-') && !ds.isEmpty && ds.all Char.isDigit
  | _ => false

/-- A plain text shows a double with a point. Without digits before the point it takes no sign and
needs a digit after it. -/
def showsDecimal (cs : List Char) : Bool :=
  let unsigned := dropSign cs
  let whole := unsigned.takeWhile (isDigitOrLine 10)
  match unsigned.dropWhile (isDigitOrLine 10) with
  | '.' :: rest =>
    isPower (rest.dropWhile (isDigitOrLine 10)) &&
      if whole.isEmpty then cs.head? = some '.' && rest.head?.any Char.isDigit
      else startsNatural whole
  | _ => false

/-- A plain text shows a double in groups of sixty, whose last group has a point. -/
def showsSexagesimal (cs : List Char) : Bool :=
  match splitColons (dropSign cs) with
  | first :: second :: groups =>
    let last := (second :: groups).getLastD []
    startsNatural first && (second :: groups).dropLast.all isSixtieth &&
      isSixtieth (last.takeWhile fun c => c ≠ '.') &&
      match last.dropWhile fun c => c ≠ '.' with
      | '.' :: places => places.all (isDigitOrLine 10)
      | _ => false
  | _ => false

/-- The words for infinities and for what is not a number. -/
def namedDoubles : List String := [
  ".inf", ".Inf", ".INF", "+.inf", "+.Inf", "+.INF", "-.inf", "-.Inf", "-.INF",
  ".nan", ".NaN", ".NAN"
]

/-- The words for truth values. -/
def truthWords : List String := [
  "yes", "Yes", "YES", "no", "No", "NO", "true", "True", "TRUE", "false", "False", "FALSE",
  "on", "On", "ON", "off", "Off", "OFF"
]

/-- The words for nothing. -/
def nullWords : List String := ["", "~", "null", "Null", "NULL"]

/-- The kind of a plain text. -/
def Kind.ofPlain (s : String) : Kind :=
  let cs := s.toList
  if s = "=" then .default
  else if s = "<<" then .merge
  else if s ∈ nullWords then .null
  else if s ∈ truthWords then .truth
  else if s ∈ namedDoubles || showsDecimal cs || showsSexagesimal cs then .double
  else if showsInteger cs then .integer
  else if isMoment cs then .moment
  else .text

example : ["0x1F", "1:30", "1:30.5", "1e2", ".5", "08"].map Kind.ofPlain =
    [.integer, .integer, .double, .text, .double, .text] := by decide +kernel

end Polyphony.Yaml
