import Polyphony.Configuration
import Polyphony.Journal.Log
import Polyphony.Performance.Worklist

/-!
# Sessions

A session keeps what outlasts a single performance: the registered modes, the roster, and the names
that the log has warned of. A step that fails keeps what it changed before. A session performs on
the idealized stack of `Music.perform`, which has room for phrases nested as deep as they may be.
-/

namespace Polyphony

/-- What outlasts a performance. -/
structure Session where
  /-- The registered modes. -/
  modes : Modes
  /-- The roster, if there is one. -/
  roster : Option Roster
  /-- The names that the log has warned of. -/
  warned : List String

/-- What a step of a session leaves. -/
structure Session.Report (α : Type) where
  /-- The result or fault. -/
  result : Except Fault α
  /-- The lines of the log. -/
  log : List Line
  /-- The session after the step. -/
  session : Session

namespace Session

/-- A session at its start. -/
def start (roster : Option Roster) : Session := ⟨.standard, roster, []⟩

/-- Runs a computation that keeps a journal and writes the log of it. -/
def report {α : Type} (session : Session) (computation : Journaled α) : Report α :=
  let (log, warned) := writeLog session.warned computation.entries
  ⟨computation.result, log, { session with warned }⟩

/-- Performs a piece. -/
def perform (session : Session) (context : Context) (piece : Music Payload) : Report Outcome :=
  session.report (piece.perform session.roster context)

/-- Reads a context from a configuration. Without a roster each reading takes a standard one of its
own, which warns on its own. -/
def configure (session : Session) (config : Configuration) : Report Context :=
  let computation := config.context session.modes session.roster
  match session.roster with
  | some _ => session.report computation
  | none => { { session with warned := [] }.report computation with session }

/-- Finds a player by name. -/
def find (session : Session) (name : String) : Report Player :=
  session.report (do
    match session.roster with
    | some roster =>
      Recorded.enter (.request roster name)
      return roster.find name
    | none => throw .noRosterToAsk)

/-- The names of the registered players. -/
def names (session : Session) : Except Fault (List String) :=
  match session.roster with
  | some roster => pure roster.names
  | none => throw (.noView Datum.null.typeName "names")

/-- The name is that of a registered player. -/
def contains (session : Session) (name : String) : Except Fault Bool :=
  match session.roster with
  | some roster => pure (roster.contains name)
  | none => throw .noRosterToSearch

/-- Registers a player with the roster. -/
def registerPlayer (session : Session) (player : Player) : Except Fault Session :=
  match session.roster with
  | some roster => pure { session with roster := some (roster.register player) }
  | none => throw (.noView Datum.null.typeName "register")

/-- Registers a mode. -/
def registerMode (session : Session) (name : String) (steps : List Int) :
    Except Fault Session := do
  return { session with modes := ← session.modes.register name steps }

end Session

end Polyphony
