/-!
# Log lines

A line of the log has a level, a source and a message.
-/

namespace Polyphony

/-- How much a log line matters. -/
inductive Level where
  | debug
  | info
  | warning
deriving DecidableEq

/-- The part of the program that a log line comes from. -/
inductive Source where
  | performance
  | players
  | configuration
  | demo
deriving DecidableEq

/-- A line of the log. -/
structure Line where
  /-- How much it matters. -/
  level : Level
  /-- Where it comes from. -/
  source : Source
  /-- What it tells. -/
  message : String
deriving DecidableEq

/-- The name of a level in the log. -/
def Level.name : Level → String
  | debug => "DEBUG"
  | info => "INFO"
  | warning => "WARNING"

/-- The name of a source in the log. -/
def Source.name : Source → String
  | performance => "cadenza.perform"
  | players => "cadenza.player"
  | configuration => "cadenza.config"
  | demo => "cadenza.__main__"

/-- A line as it is written: level, source and message, with colons between them. -/
def Line.text (line : Line) : String :=
  line.level.name ++ ":" ++ line.source.name ++ ":" ++ line.message

end Polyphony
