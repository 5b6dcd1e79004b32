import Polyphony.Moment
import Polyphony.Text.Digit
import Polyphony.Yaml.Cursor

/-!
# Moments in documents

How a document writes a day, as a year, a month and a day with hyphens between them, and a time on
it, which follows after a letter or blanks: hours, minutes and seconds with colons between them, a
fraction, and how far the clock is ahead.
-/

namespace Polyphony.Yaml

/-- The number of the digits that a text begins with, at least and at most so many, and what follows
them. -/
def digits? (least most : Nat) (cs : List Char) : Option (Nat × List Char) :=
  let digits := (cs.takeWhile Char.isDigit).take most
  if least ≤ digits.length then some (Text.valueIn 10 digits, cs.drop digits.length) else none

/-- The number of two digits after a sign, and what follows them. -/
def pairAfter? (sign : Char) : List Char → Option (Nat × List Char)
  | c :: cs => if c = sign then digits? 2 2 cs else none
  | [] => none

/-- The minutes by which a clock is ahead, after a sign. -/
def aheadMinutes? (cs : List Char) : Option Int := do
  let (hours, rest) ← digits? 1 2 cs
  if rest.isEmpty then return hours * 60
  let (minutes, rest) ← pairAfter? ':' rest
  if rest.isEmpty then return hours * 60 + minutes else none

/-- How far the clock is ahead, if the end of a text says so. -/
def ahead? (cs : List Char) : Option (Option Int) :=
  if cs.isEmpty then some none
  else
    match cs.dropWhile isSpace with
    | ['Z'] => some (some 0)
    | '+' :: ds => (aheadMinutes? ds).map some
    | '-' :: ds => (aheadMinutes? ds).map fun minutes => some (-minutes)
    | _ => none

/-- The millionths of a second in a fraction, if there is one, and what follows it. -/
def takeMicros : List Char → Nat × List Char
  | '.' :: cs =>
    let digits := cs.takeWhile Char.isDigit
    let shown := digits.take 6
    (Text.valueIn 10 shown * Nat.pow 10 (6 - shown.length), cs.drop digits.length)
  | cs => (0, cs)

/-- The time of day that a text spells. -/
def clock? (cs : List Char) : Option Clock := do
  let (hour, rest) ← digits? 1 2 cs
  let (minute, rest) ← pairAfter? ':' rest
  let (second, rest) ← pairAfter? ':' rest
  let (micros, rest) := takeMicros rest
  return ⟨hour, minute, second, micros, ← ahead? rest⟩

/-- What follows the sign between a day and a time: a letter or blanks. -/
def afterDay? : List Char → Option (List Char)
  | c :: cs =>
    if c = 'T' || c = 't' then some cs
    else if isSpace c then some (cs.dropWhile isSpace)
    else none
  | [] => none

/-- The moment that a text spells, in the calendar or not. -/
def moment? (cs : List Char) : Option Moment := do
  let (year, '-' :: rest) ← digits? 4 4 cs | none
  let (month, '-' :: rest) ← digits? 1 2 rest | none
  let (day, rest) ← digits? 1 2 rest
  if rest.isEmpty then return ⟨year, month, day, none⟩
  return ⟨year, month, day, some (← clock? (← afterDay? rest))⟩

/-- A plain text spells a moment. A day on its own takes two digits for the month and the day. -/
def isMoment (cs : List Char) : Bool :=
  (moment? cs).any fun moment => moment.clock.isSome || cs.length = 10

end Polyphony.Yaml
