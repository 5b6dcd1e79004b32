import Polyphony.Text.Quoted

/-!
# Players

A player turns notes and phrases into events. Players differ in their style, which says how they
shape phrases, and in the name that directives call them by.
-/

namespace Polyphony

/-- How a player shapes phrases. -/
inductive Style where
  /-- Shapes accents and articulations. -/
  | plain
  /-- Shapes crescendos and diminuendos as well. -/
  | fancy
deriving DecidableEq

/-- A style of playing under a name. -/
structure Player where
  /-- How phrases are shaped. -/
  style : Style
  /-- The name that directives use. -/
  name : String
deriving DecidableEq

namespace Player

/-- A plain player under the usual name. -/
def standard : Player := ⟨.plain, "Default"⟩

/-- A fancy player under the usual name. -/
def ornate : Player := ⟨.fancy, "Fancy"⟩

/-- The same player under another name. -/
def renamed (player : Player) (name : String) : Player := { player with name := name }

/-- A player as shown to a reader. -/
def shown (player : Player) : String :=
  (match player.style with | .plain => "Player(" | .fancy => "FancyPlayer(") ++
    Text.quoted player.name ++ ")"

end Player

end Polyphony
