import Polyphony.Datum.Integer
import Polyphony.Datum.Order
import Polyphony.Journal.Entry
import Polyphony.Ratio.Reader
import Polyphony.Sorting.Runs

/-!
# Configurations

A configuration may set fields of the context that performances start from, in its section
`context`. Every field is optional; a missing one keeps its standard value. Unknown keys and
unreadable values are faults. How the text of a configuration file is read as a document is left to
a reader, which may be any.
-/

namespace Polyphony

/-- The entries of a configuration document. -/
abbrev Configuration := List (Scalar × Datum)

/-- The fields of the context that a configuration sets. -/
structure Overrides where
  /-- The volume. -/
  volume : Option Int
  /-- The factor from written lengths to sounding time. -/
  durationScale : Option Ratio
  /-- The factor from written lengths to time. -/
  lengthScale : Option Ratio
  /-- The transposition. -/
  pitch : Option Int
  /-- The channel. -/
  channel : Option Channel
  /-- The key. -/
  key : Option Key
  /-- The name of the player. -/
  player : Option String

namespace Configuration

/-- The configuration that a datum is: only a mapping has entries to look up. -/
def ofDatum : Datum → Except Fault Configuration
  | .mapping entries => pure entries
  | datum => throw (.noView datum.typeName "get")

/-- The file that a configuration is read from. -/
def path : String := "cadenza.yaml"

/-- The keys of the section. -/
def keys : List String :=
  ["volume", "duration_scale", "delta_scale", "pitch", "instrument", "key", "mode", "player"]

/-- The key is one of the section's. -/
def isKnown : Scalar → Bool
  | .text s => keys.contains s
  | _ => false

/-- The order of keys. -/
def keyBelow (a b : Scalar) : Except Fault Bool :=
  (Datum.scalar a).compareBy .lt (.scalar b)

/-- The section that sets fields of the context; one that counts as absent is empty. -/
def contextSection (config : Configuration) : Except Fault Configuration :=
  match Datum.lookup? config (.text "context") with
  | none => pure []
  | some datum =>
    if datum.isVoid then pure []
    else
      match datum with
      | .mapping entries => pure entries
      | _ => throw .sectionNotMapping

/-- Refuses keys that the section does not have. -/
def checkKeys (entries : Configuration) : Except Fault Unit := do
  let unknown ← Sorting.sort keyBelow ((entries.map (·.1)).filter fun key => !isKnown key)
  if unknown.isEmpty then return ()
  throw (.unknownKeys (unknown.map Scalar.shown) keys)

/-- Blames the key of a value for a fault in reading it. A number too large passes unblamed. -/
def blame (key : String) (fault : Fault) : Fault :=
  if fault.kind = .overflow then fault else .invalidValue key fault

/-- Reads the value of a key, if it is there. -/
def readField {α : Type} (entries : Configuration) (key : String)
    (read : Datum → Except Fault α) : Except Fault (Option α) :=
  match Datum.lookup? entries (.text key) with
  | none => pure none
  | some datum =>
    match read datum with
    | .ok a => pure (some a)
    | .error fault => throw (blame key fault)

/-- Reads a mode by its name. -/
def readMode (modes : Modes) (datum : Datum) : Except Fault String := do
  let _ ← modes.steps datum.display
  return datum.display

/-- Reads the tonic and the mode, each of which falls back to the standard one. -/
def readKey (modes : Modes) (entries : Configuration) : Except Fault (Option Key) := do
  let tonic ← readField entries "key" fun datum => PitchClass.ofNoteName datum.display
  let mode ← readField entries "mode" (readMode modes)
  if tonic.isNone && mode.isNone then return none
  return some ⟨tonic.getD Context.standard.key.tonic, mode.getD Context.standard.key.mode⟩

/-- Reads all fields that the section sets. -/
def readOverrides (modes : Modes) (entries : Configuration) : Except Fault Overrides := do
  let volume ← readField entries "volume" Datum.toInteger
  let durationScale ← readField entries "duration_scale" Ratio.ofDatum
  let lengthScale ← readField entries "delta_scale" Ratio.ofDatum
  let pitch ← readField entries "pitch" Datum.toInteger
  let channel ← readField entries "instrument" fun datum => do
    Channel.request (← datum.toInteger)
  let key ← readKey modes entries
  let player := (Datum.lookup? entries (.text "player")).map Datum.display
  return { volume, durationScale, lengthScale, pitch, channel, key, player }

end Configuration

namespace Overrides

/-- The names of the fields that are set, in ascending order. -/
def fields (overrides : Overrides) : List String :=
  [
    ("delta_scale", overrides.lengthScale.isSome),
    ("duration_scale", overrides.durationScale.isSome),
    ("instrument", overrides.channel.isSome),
    ("key", overrides.key.isSome),
    ("pitch", overrides.pitch.isSome),
    ("player", overrides.player.isSome),
    ("volume", overrides.volume.isSome)
  ].filterMap fun field => if field.2 then some field.1 else none

/-- The standard context with the fields that are set, players taken from a roster. -/
def context (roster : Roster) (overrides : Overrides) : Context where
  time := Context.standard.time
  player := (overrides.player.map roster.find).getD Context.standard.player
  lengthScale := overrides.lengthScale.getD Context.standard.lengthScale
  pitch := overrides.pitch.getD Context.standard.pitch
  volume := overrides.volume.getD Context.standard.volume
  durationScale := overrides.durationScale.getD Context.standard.durationScale
  channel := overrides.channel.getD Context.standard.channel
  key := overrides.key.getD Context.standard.key

end Overrides

namespace Configuration

/-- What reads the text of a file as a document. -/
abbrev Reader := String → Except Fault Datum

/-- The configuration in a file, given a reader and the file's text if it is there. A missing file
is an empty configuration, and so is a document that stands for nothing. -/
def load (read : Reader) (text : Option String) : Journaled Configuration :=
  match text with
  | none => do
    Recorded.enter (.missingFile path)
    return []
  | some text => do
    match ← read text with
    | .null => return []
    | .mapping entries => return entries
    | datum => throw (.documentNotMapping path datum.shortTypeName)

/-- The context that a configuration makes. Without a roster, players come from the standard
one. -/
def context (modes : Modes) (roster : Option Roster) (config : Configuration) :
    Journaled Context := do
  let entries ← contextSection config
  checkKeys entries
  let overrides ← readOverrides modes entries
  let roster := roster.getD .standard
  match overrides.player with
  | some name => Recorded.enter (.request roster name)
  | none => pure ()
  Recorded.enter (.overrides overrides.fields)
  return overrides.context roster

end Configuration

end Polyphony
