import Polyphony.Event
import Polyphony.Player.Basic
import Polyphony.Velocity

/-!
# Shaping phrases

The attributes of a phrase reshape the events of its performance, from the last attribute to the
first. Every player scales volumes and durations; a fancy player also draws a ramp of volumes from
the first event to the end of the phrase. New volumes go through the nearest double: an accent
cuts it to an integer, a ramp rounds it.
-/

namespace Polyphony.Player

/-- The volume of an accented event. -/
def accentedVolume (amount : Ratio) (volume : Int) : Except Fault Int := do
  let scaled ← amount.mul (.ofInt volume)
  return (← scaled.toBinary64).integerPart

/-- The volume of an event on a ramp that changes volumes by `rate` of their level in a unit of
time. -/
def rampVolume (start rate time : Ratio) (volume : Int) : Except Fault Int := do
  let passed ← time.sub start
  let change ← passed.mul rate
  let factor ← change.add .one
  let scaled ← factor.mul (.ofInt volume)
  return max Velocity.lowest (← scaled.toBinary64).nearestInteger

/-- Scales the volume of every event. -/
def accent (amount : Ratio) (events : List Event) : Except Fault (List Event) :=
  events.mapM fun event => do
    return { event with volume := ← accentedVolume amount event.volume }

/-- Scales the duration of every event. -/
def articulate (amount : Ratio) (events : List Event) : Except Fault (List Event) :=
  events.mapM fun event => do
    return { event with duration := ← event.duration.mul amount }

/-- Puts events on a ramp that changes volumes by `amount` of their level over the elapsed time,
downward if `falling`. Without events or time there is no ramp. -/
def ramp (falling : Bool) (amount elapsed : Ratio) : List Event → Except Fault (List Event)
  | [] => pure []
  | first :: rest => do
    if ← elapsed.eq .zero then return first :: rest
    let rate ← amount.div elapsed
    let rate ← if falling then rate.neg else pure rate
    (first :: rest).mapM fun event => do
      return { event with volume := ← rampVolume first.time rate event.time event.volume }

/-- Applies one attribute to the events of a phrase. -/
def applyPhraseAttribute (player : Player) (elapsed : Ratio) (events : List Event) :
    PhraseAttribute → Except Fault (List Event)
  | .accent amount => accent amount events
  | .staccato amount => articulate amount events
  | .legato amount => articulate amount events
  | .crescendo amount =>
    match player.style with
    | .plain => pure events
    | .fancy => ramp false amount elapsed events
  | .diminuendo amount =>
    match player.style with
    | .plain => pure events
    | .fancy => ramp true amount elapsed events

/-- Applies attributes from the last to the first. -/
def applyPhraseAttributes (player : Player) (elapsed : Ratio) (events : List Event) :
    List PhraseAttribute → Except Fault (List Event)
  | [] => pure events
  | attr :: attributes => do
    let events ← player.applyPhraseAttributes elapsed events attributes
    player.applyPhraseAttribute elapsed events attr

end Polyphony.Player
