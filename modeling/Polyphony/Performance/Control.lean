import Polyphony.Journal.Entry
import Polyphony.Performance.Directive

/-!
# Contexts under controls

How a control changes the context of its body. A player directive asks the roster for a player;
other directives, and player directives without a roster, change nothing but are entered in the
journal. Entering a switch never fails: the text of its time is idealized, as that of every ratio
is, and may have any number of digits.
-/

namespace Polyphony

namespace Context

/-- The context that a directive makes. -/
def directed (roster : Option Roster) (context : Context) (directive : String) :
    Journaled Context :=
  match Performance.directedPlayer? directive with
  | none => do
    Recorded.enter (.ignored directive)
    return context
  | some name =>
    match roster with
    | none => do
      Recorded.enter (.withoutRoster name)
      return context
    | some roster => do
      Recorded.enter (.switch name context.time)
      Recorded.enter (.request roster name)
      return context.withPlayer (roster.find name)

/-- The context under a control. A phrase does not change it. -/
def under (roster : Option Roster) (context : Context) : Control → Journaled Context
  | .tempo ratio => context.withTempo ratio
  | .transpose steps => return context.transposed steps
  | .instrument channel => return context.withChannel channel
  | .key key => return context.withKey key
  | .phrase _ => return context
  | .custom directive => context.directed roster directive
  | .stray number => throw (.strayControl number)

end Context

end Polyphony
