import Polyphony.Binary64.Arithmetic
import Polyphony.Datum.Integer
import Polyphony.Datum.Order

/-!
# The pace of a performance

A pace is given in beats per minute, four of which make a whole note. It turns the time of events,
in whole notes, into seconds.
-/

namespace Polyphony.Pace

/-- The beats per minute when none are given. -/
def standard : Datum := .int 120

/-- A number as a double. -/
def toBinary64 : Datum → Except Fault Binary64
  | .float x => pure x
  | datum => do
    match Binary64.ofInt? (← datum.toInteger) with
    | some x => pure x
    | none => throw .integerTooLarge

/-- The seconds that a whole note takes at one beat per minute: sixty for each of its four
beats. -/
def secondsAtOneBeat : Binary64 := .ofWord 0x406E000000000000

example : secondsAtOneBeat.value = 4 * 60 := by decide +kernel

/-- The seconds that a whole note takes. Beats that are not a number count as positive. -/
def secondsPerWhole (beats : Datum) : Except Fault Binary64 := do
  if ← beats.compareBy .le (.int 0) then throw .beatsNotPositive
  return secondsAtOneBeat.div (← toBinary64 beats)

end Polyphony.Pace
