import Mathlib.Data.List.Induction
import Polyphony.Roster

/-!
# Registered players

A roster answers as the list of its registrations does: a name gets the player that was registered
under it last, the default player counting as the first one registered, and a name that nobody was
registered under gets the default player under that name.
-/

namespace Polyphony.Roster

/-- The player that was registered last under a name, of players in the order of registration. -/
def lastNamed? (players : List Player) (name : String) : Option Player :=
  players.reverse.find? fun player => player.name = name

theorem lastNamed?_append_singleton (players : List Player) (player : Player) (name : String) :
    lastNamed? (players ++ [player]) name =
      if player.name = name then some player else lastNamed? players name := by
  by_cases hname : player.name = name <;> simp [lastNamed?, hname]

/-- A registered player is found under its name, and the others are found as before. -/
theorem registered?_register (roster : Roster) (player : Player) (name : String) :
    (roster.register player).registered? name =
      if player.name = name then some player else roster.registered? name := by
  by_cases hname : player.name = name
  · simp [register, registered?, hname]
  · rw [if_neg hname, registered?, registered?, register,
      List.find?_cons_of_neg (by simpa using hname), List.find?_filter]
    congr 1
    funext other
    by_cases hother : other.name = name
    · simp [hother, Ne.symm hname]
    · simp [hother]

theorem ofPlayers_append (substitute : Player) (players more : List Player) :
    ofPlayers substitute (players ++ more) = more.foldl register (ofPlayers substitute players) :=
  List.foldl_append

/-- Registering keeps the default player. -/
@[simp] theorem substitute_ofPlayers (substitute : Player) (players : List Player) :
    (ofPlayers substitute players).substitute = substitute := by
  induction players using List.reverseRecOn with
  | nil => rfl
  | append_singleton players player ih =>
    rw [ofPlayers_append]
    exact ih

/-- A roster finds the player that was registered last. -/
theorem registered?_ofPlayers (substitute : Player) (players : List Player) (name : String) :
    (ofPlayers substitute players).registered? name =
      lastNamed? (substitute :: players) name := by
  induction players using List.reverseRecOn with
  | nil => rfl
  | append_singleton players player ih =>
    have happend : ofPlayers substitute (players ++ [player]) =
        (ofPlayers substitute players).register player :=
      ofPlayers_append substitute players [player]
    rw [happend, registered?_register, ih, ← List.cons_append, lastNamed?_append_singleton]

/-- What a roster answers is the player that was registered last, or else the default player under
the name that was asked for. -/
theorem find_ofPlayers (substitute : Player) (players : List Player) (name : String) :
    (ofPlayers substitute players).find name =
      (lastNamed? (substitute :: players) name).getD (substitute.renamed name) := by
  rw [find, registered?_ofPlayers, substitute_ofPlayers]

/-- The player that a roster finds has the name that was asked for. -/
theorem name_find (roster : Roster) (name : String) : (roster.find name).name = name := by
  unfold find
  cases hfound : roster.registered? name with
  | none => rfl
  | some player => simpa [registered?] using List.find?_some hfound

/-- So it has whatever the registrations are. -/
theorem name_find_ofPlayers (substitute : Player) (players : List Player) (name : String) :
    ((ofPlayers substitute players).find name).name = name :=
  name_find _ name

end Polyphony.Roster
