import Polyphony.Text.Blank

/-!
# Player directives

A directive that begins with the word "player" and a space, in capitals or not, names a player: the
rest without surrounding blanks. A rest of blanks names nobody.
-/

namespace Polyphony.Performance

/-- The words that a player directive begins with. -/
def summons : List Char := "player ".toList

/-- The player that a directive names. -/
def directedPlayer? (directive : String) : Option String :=
  let cs := directive.toList
  if (cs.take summons.length).map Char.toLower = summons then
    match Text.trim Text.isBlank (cs.drop summons.length) with
    | [] => none
    | name => some (String.ofList name)
  else none

example : directedPlayer? "PLAYER  Fancy " = some "Fancy" := by decide +kernel

example : directedPlayer? "player " = none := by decide +kernel

end Polyphony.Performance
