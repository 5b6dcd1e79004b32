import Polyphony.Text.Digit

/-!
# Moments

Days of the calendar and times of day, as documents name them. A time may say how many minutes its
clock is ahead of the common one; two times that do are compared as instants.
-/

namespace Polyphony

/-- A time of day. -/
structure Clock where
  /-- The hour, from 0 to 23. -/
  hour : Nat
  /-- The minute, from 0 to 59. -/
  minute : Nat
  /-- The second, from 0 to 59. -/
  second : Nat
  /-- The millionths of a second. -/
  micros : Nat
  /-- The minutes by which the clock is ahead of the common one, if they are known. -/
  ahead : Option Int
deriving DecidableEq, Inhabited

/-- A day of the calendar, or a time on it. -/
structure Moment where
  /-- The year, from 1 on. -/
  year : Nat
  /-- The month, from 1 to 12. -/
  month : Nat
  /-- The day, from 1 on. -/
  day : Nat
  /-- The time of the day, if it is one. -/
  clock : Option Clock
deriving DecidableEq, Inhabited

/-- What keeps numbers from being a moment. -/
inductive Moment.Flaw where
  | year (number : Nat)
  | month
  | day
  | hour
  | minute
  | second
  | ahead (minutes : Int)
deriving DecidableEq, Inhabited

namespace Clock

/-- The first flaw of a clock's parts. -/
def flaw? (clock : Clock) : Option Moment.Flaw :=
  if 23 < clock.hour then some .hour
  else if 59 < clock.minute then some .minute
  else if 59 < clock.second then some .second
  else none

/-- The minutes by which a clock is ahead, as a sign, hours and minutes. -/
def aheadText (minutes : Int) : String :=
  let size := minutes.natAbs
  (if minutes < 0 then "-" else "+") ++ Text.filled 2 (size / 60) ++ ":" ++
    Text.filled 2 (size % 60)

/-- A time of day on its own. -/
def display (clock : Clock) : String :=
  let micros := if clock.micros = 0 then "" else "." ++ Text.filled 6 clock.micros
  Text.filled 2 clock.hour ++ ":" ++ Text.filled 2 clock.minute ++ ":" ++
    Text.filled 2 clock.second ++ micros ++ (clock.ahead.map aheadText).getD ""

/-- The numbers of a clock that are shown: seconds and their parts only as far as they matter. -/
def shownNumbers (clock : Clock) : List Nat :=
  if clock.micros ≠ 0 then [clock.hour, clock.minute, clock.second, clock.micros]
  else if clock.second ≠ 0 then [clock.hour, clock.minute, clock.second]
  else [clock.hour, clock.minute]

end Clock

namespace Moment

/-- A year with a day more than the others. -/
def isLeap (year : Nat) : Bool :=
  year % 4 = 0 && (year % 100 ≠ 0 || year % 400 = 0)

/-- The number of days of a month. -/
def daysIn (year month : Nat) : Nat :=
  if month = 2 then (if isLeap year then 29 else 28)
  else if month ∈ [4, 6, 9, 11] then 30
  else 31

/-- The first flaw of a moment. -/
def flaw? (moment : Moment) : Option Flaw :=
  match moment.clock.bind (·.ahead) with
  | some minutes =>
    if 1440 ≤ minutes.natAbs then some (.ahead minutes) else inCalendar
  | none => inCalendar
where
  /-- The first flaw of the day or of the time on it. -/
  inCalendar : Option Flaw :=
    if moment.year = 0 then some (.year moment.year)
    else if moment.month = 0 || 12 < moment.month then some .month
    else if moment.day = 0 || daysIn moment.year moment.month < moment.day then some .day
    else moment.clock.bind Clock.flaw?

/-- The number of a day, counted from the first day of the first year. -/
def dayNumber (moment : Moment) : Nat :=
  let before := moment.year - 1
  let months := (List.range (moment.month - 1)).map fun month => daysIn moment.year (month + 1)
  365 * before + before / 4 - before / 100 + before / 400 + months.foldl (· + ·) 0 + moment.day

/-- The millionths of a second up to a moment on the common clock. -/
def instant (moment : Moment) : Int :=
  let clock := moment.clock.getD default
  let minutes : Int := (moment.dayNumber * 24 + clock.hour) * 60 + clock.minute
  ((minutes - clock.ahead.getD 0) * 60 + clock.second) * 1000000 + clock.micros

/-- Both are days, or both are times on clocks that are alike in being compared with the common
one. -/
def isLike (a b : Moment) : Bool :=
  a.clock.map (·.ahead.isSome) = b.clock.map (·.ahead.isSome)

/-- Equality of moments. -/
def eq (a b : Moment) : Bool := a.isLike b && a.instant = b.instant

/-- A moment on its own. -/
def display (moment : Moment) : String :=
  Text.filled 4 moment.year ++ "-" ++ Text.filled 2 moment.month ++ "-" ++
    Text.filled 2 moment.day ++ (moment.clock.map fun clock => " " ++ clock.display).getD ""

/-- A span of minutes as it stands inside another value: in days and seconds, which are not
negative. -/
def shownSpan (minutes : Int) : String :=
  let days := minutes / 1440
  let seconds := minutes % 1440 * 60
  let parts := (if days = 0 then [] else ["days=" ++ toString days]) ++
    (if seconds = 0 then [] else ["seconds=" ++ toString seconds])
  "datetime.timedelta(" ++ ", ".intercalate parts ++ ")"

/-- The offset of a clock as it stands there. -/
def shownAhead (minutes : Int) : String :=
  if minutes = 0 then "datetime.timezone.utc"
  else "datetime.timezone(" ++ shownSpan minutes ++ ")"

/-- The name of a moment's type. -/
def typeName (moment : Moment) : String :=
  if moment.clock.isSome then "datetime.datetime" else "datetime.date"

/-- The last part of that name. -/
def shortTypeName (moment : Moment) : String :=
  if moment.clock.isSome then "datetime" else "date"

/-- A moment as it stands inside another value. -/
def shown (moment : Moment) : String :=
  let numbers := [moment.year, moment.month, moment.day] ++
    (moment.clock.map Clock.shownNumbers).getD []
  let ahead := (moment.clock.bind (·.ahead)).map fun minutes => "tzinfo=" ++ shownAhead minutes
  moment.typeName ++ "(" ++ ", ".intercalate (numbers.map toString ++ ahead.toList) ++ ")"

end Moment

end Polyphony
