import Polyphony.Player.Basic

/-!
# Rosters

A roster finds players by name. A name that nobody registered gets the default player under that
name, so finding never fails.
-/

namespace Polyphony

/-- The registered players and the default one. -/
structure Roster where
  /-- The player for names that nobody registered. -/
  substitute : Player
  /-- The registered players, each under its own name. -/
  players : List Player

namespace Roster

/-- Registers a player under its own name, in place of the one that had it. -/
def register (roster : Roster) (player : Player) : Roster :=
  { roster with players := player :: roster.players.filter fun other => other.name ≠ player.name }

/-- The roster of a default player and further players, registered in order after it. -/
def ofPlayers (substitute : Player) (players : List Player) : Roster :=
  players.foldl register ⟨substitute, [substitute]⟩

/-- The roster of the plain and the fancy player. -/
def standard : Roster := ofPlayers .standard [.ornate]

/-- The player registered under a name. -/
def registered? (roster : Roster) (name : String) : Option Player :=
  roster.players.find? fun player => player.name = name

/-- The name is registered. -/
def contains (roster : Roster) (name : String) : Bool :=
  (roster.registered? name).isSome

/-- The player for a name. -/
def find (roster : Roster) (name : String) : Player :=
  (roster.registered? name).getD (roster.substitute.renamed name)

/-- The registered names in ascending order. -/
def names (roster : Roster) : List String :=
  (roster.players.map Player.name).mergeSort fun a b => a ≤ b

end Roster

end Polyphony
