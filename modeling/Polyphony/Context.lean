import Polyphony.Control
import Polyphony.Duration
import Polyphony.Player.Basic
import Polyphony.Velocity

/-!
# Contexts

What is in force at one point of a piece: the time, the player, the scales from written to
performed time, and the transposition, volume, channel and key. Controls derive new contexts and
leave the old one as it is.
-/

namespace Polyphony

/-- The state of a performance at one point. -/
structure Context where
  /-- The time at which the piece starts. -/
  time : Ratio
  /-- The player of notes and phrases. -/
  player : Player
  /-- The factor from written lengths to time. -/
  lengthScale : Ratio
  /-- What is added to every pitch. -/
  pitch : Int
  /-- The volume of events whose notes set none. -/
  volume : Int
  /-- The factor from written lengths to sounding time. -/
  durationScale : Ratio
  /-- The channel of events. -/
  channel : Channel
  /-- The key. -/
  key : Key
deriving DecidableEq

namespace Context

/-- The context that performances start from: time zero, no scaling or transposition, full volume,
notes sounding for half their length on the first channel, in E phrygian. -/
def standard : Context where
  time := .zero
  player := .standard
  lengthScale := .one
  pitch := 0
  volume := Velocity.standard
  durationScale := Duration.soundingShare
  channel := .first
  key := ⟨⟨4, by decide⟩, "phrygian"⟩

/-- The context a while later. -/
def advanced (context : Context) (elapsed : Ratio) : Except Fault Context := do
  return { context with time := ← context.time.add elapsed }

/-- The context of a faster tempo. -/
def withTempo (context : Context) (ratio : Ratio) : Except Fault Context := do
  let lengthScale ← context.lengthScale.div ratio
  let durationScale ← context.durationScale.div ratio
  return { context with lengthScale, durationScale }

/-- The context some semitones higher. -/
def transposed (context : Context) (steps : Int) : Context :=
  { context with pitch := context.pitch + steps }

/-- The context on another channel. -/
def withChannel (context : Context) (channel : Channel) : Context :=
  { context with channel }

/-- The context in another key. -/
def withKey (context : Context) (key : Key) : Context :=
  { context with key }

/-- The context with another player. -/
def withPlayer (context : Context) (player : Player) : Context :=
  { context with player }

end Context

end Polyphony
