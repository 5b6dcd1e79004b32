import Polyphony.Context
import Polyphony.Journal.Recorded
import Polyphony.Roster

/-!
# Entries of a journal

What a performance and the reading of a configuration leave in the journal: the calls to players
and to the roster, what directives did, and which fields a configuration set.
-/

namespace Polyphony

/-- An entry of the journal. -/
inductive Entry where
  /-- A player was asked to play a note. -/
  | note (context : Context) (length : Ratio) (payload : Payload)
  /-- A player was asked to perform a phrase. -/
  | phrase (context : Context) (attributes : List PhraseAttribute)
  /-- A roster was asked for a player. -/
  | request (roster : Roster) (name : String)
  /-- A directive meant nothing. -/
  | ignored (directive : String)
  /-- A directive asked for a player, and there was no roster. -/
  | withoutRoster (name : String)
  /-- A directive asked for a player at a time. -/
  | switch (name : String) (time : Ratio)
  /-- A configuration set fields of the context. -/
  | overrides (fields : List String)
  /-- A configuration file was not there. -/
  | missingFile (path : String)
  /-- The demo told something. -/
  | told (message : String)

/-- A computation that keeps a journal. -/
abbrev Journaled := Recorded Entry

end Polyphony
