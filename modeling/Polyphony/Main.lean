import Polyphony.Demo
import Polyphony.Journal.Log
import Polyphony.Yaml.Document

/-!
# The command line

Reads the configuration file in the current directory as a YAML document, plays the demo, and writes
its log to the error stream, details left out.
-/

namespace Polyphony.CommandLine

/-- The text of the configuration file, if it is there. -/
def readConfiguration : IO (Option String) := do
  try
    return some (← IO.FS.readFile Configuration.path)
  catch _ =>
    return none

/-- The log of the demo, details left out. -/
def demoLog (demo : Journaled Unit) : List Line :=
  (writeLog [] demo.entries).1.filter fun line => line.level ≠ .debug

end Polyphony.CommandLine

open Polyphony
open Polyphony.CommandLine

/-- Plays the demo. -/
def main : IO UInt32 := do
  let demo := Demo.run Yaml.read (← readConfiguration)
  for line in demoLog demo do
    IO.eprintln line.text
  match demo.result with
  | .ok () => return 0
  | .error fault =>
    IO.eprintln fault.message
    return 1
