import Polyphony.Fault

/-!
# Channels

The sixteen channels that messages are sent on. Channels are asked for by number, from one on.
-/

namespace Polyphony

/-- One of the sixteen channels, counted from one. -/
structure Channel where
  /-- The place of the channel, counted from zero. -/
  index : Fin 16
deriving DecidableEq, Inhabited

namespace Channel

/-- The number of a channel. -/
def number (channel : Channel) : Int := (channel.index.val : Int) + 1

/-- The number that messages have for a channel, counted from zero. -/
def wire (channel : Channel) : Int := (channel.index.val : Int)

/-- The first channel. -/
def first : Channel := ⟨0⟩

/-- The channel with a number. -/
def ofInt (number : Int) : Except Fault Channel :=
  if h : 1 ≤ number ∧ number ≤ 16 then pure ⟨⟨(number - 1).toNat, by omega⟩⟩
  else throw (.notChannel number)

/-- The channel with a number that was asked for. A number outside is reported with the range. -/
def request (number : Int) : Except Fault Channel :=
  if 1 ≤ number ∧ number ≤ 16 then ofInt number else throw (.channelOutside number)

end Channel

end Polyphony
