import Polyphony.Journal.Entry
import Polyphony.Journal.Line

/-!
# The log of a journal

The log is written from the journal, entry by entry. It warns of a name that the roster does not
know, but only once for each name, so writing it carries the names that it has warned of.
-/

namespace Polyphony

namespace Entry

/-- The warning about a name that a roster does not know. -/
def warning (roster : Roster) (name : String) : Line :=
  ⟨.warning, .players,
    "Unknown player " ++ Text.quoted name ++ ", using " ++ Text.quoted roster.substitute.name ++
      " in its place. Known players: " ++ Text.quotedList roster.names⟩

/-- The name that an entry warns of: one that its roster does not know. -/
def unknown? : Entry → Option String
  | request roster name => if roster.contains name then none else some name
  | _ => none

/-- The log line of an entry, given the names that the log has warned of before. Calls to players
leave no line. -/
def line? (warned : List String) : Entry → Option Line
  | note .. => none
  | phrase .. => none
  | request roster name =>
    if roster.contains name || warned.contains name then none else some (warning roster name)
  | ignored directive =>
    some ⟨.debug, .performance, "Ignoring custom directive " ++ Text.quoted directive⟩
  | withoutRoster name =>
    some ⟨.debug, .performance, "No player map, cannot switch to player " ++ Text.quoted name⟩
  | switch name time =>
    some ⟨.debug, .performance,
      "Switching to player " ++ Text.quoted name ++ " at " ++ time.text⟩
  | overrides fields =>
    some ⟨.debug, .configuration, "Context overrides from config: " ++ Text.quotedList fields⟩
  | missingFile path =>
    some ⟨.warning, .configuration, "Config file " ++ path ++ " not found. Using defaults."⟩
  | told message => some ⟨.info, .demo, message⟩

/-- The names that the log has warned of after an entry. -/
def warnedAfter (warned : List String) (entry : Entry) : List String :=
  match entry.unknown? with
  | some name => if warned.contains name then warned else name :: warned
  | none => warned

end Entry

/-- The log of a journal, and the names that it has warned of by its end. -/
def writeLog (warned : List String) : List Entry → List Line × List String
  | [] => ([], warned)
  | entry :: entries =>
    let (lines, warnedLater) := writeLog (entry.warnedAfter warned) entries
    ((entry.line? warned).toList ++ lines, warnedLater)

end Polyphony
