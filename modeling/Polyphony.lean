import Polyphony.Binary64.Arithmetic
import Polyphony.Binary64.Basic
import Polyphony.Binary64.Decimal
import Polyphony.Binary64.Reader
import Polyphony.Binary64.Rounding
import Polyphony.Channel
import Polyphony.Comparison
import Polyphony.Configuration
import Polyphony.Context
import Polyphony.Control
import Polyphony.Datum.Basic
import Polyphony.Datum.Integer
import Polyphony.Datum.Order
import Polyphony.Datum.Sequence
import Polyphony.Demo
import Polyphony.Duration
import Polyphony.Event
import Polyphony.Fault
import Polyphony.Journal.Entry
import Polyphony.Journal.Line
import Polyphony.Journal.Log
import Polyphony.Journal.Recorded
import Polyphony.Main
import Polyphony.Message
import Polyphony.Mode
import Polyphony.Moment
import Polyphony.Music.Basic
import Polyphony.Music.Build
import Polyphony.Music.Equality
import Polyphony.Music.Fold
import Polyphony.Number.Arithmetic
import Polyphony.Number.Basic
import Polyphony.Operand.Arithmetic
import Polyphony.Operand.Basic
import Polyphony.Operand.Hash
import Polyphony.Operand.Order
import Polyphony.Pace
import Polyphony.Performance.Control
import Polyphony.Performance.Directive
import Polyphony.Performance.Merge
import Polyphony.Performance.Outcome
import Polyphony.Performance.Recursive
import Polyphony.Performance.Worklist
import Polyphony.Pitch
import Polyphony.Player.Basic
import Polyphony.Player.Note
import Polyphony.Player.Phrase
import Polyphony.Ratio.Arithmetic
import Polyphony.Ratio.Basic
import Polyphony.Ratio.Divisor
import Polyphony.Ratio.Order
import Polyphony.Ratio.Reader
import Polyphony.Roster
import Polyphony.Session
import Polyphony.Sorting.Gallop
import Polyphony.Sorting.Insertion
import Polyphony.Sorting.Merge
import Polyphony.Sorting.Runs
import Polyphony.Text.Base64
import Polyphony.Text.Blank
import Polyphony.Text.Digit
import Polyphony.Text.Integer
import Polyphony.Text.Printable
import Polyphony.Text.Quoted
import Polyphony.Velocity
import Polyphony.Yaml.Calendar
import Polyphony.Yaml.Cursor
import Polyphony.Yaml.Document
import Polyphony.Yaml.Label
import Polyphony.Yaml.Literal
import Polyphony.Yaml.Node
import Polyphony.Yaml.Plain
import Polyphony.Yaml.Scalar
import Polyphony.Yaml.Staged
import Polyphony.Yaml.Token
import Polyphony.Yaml.Value
import Polyphony.Yaml.Words
import Polyphony.Proofs.Performance.Machine
import Polyphony.Proofs.Journal.Success
import Polyphony.Proofs.Performance.Supply
import Polyphony.Proofs.Ratio.Comparison
import Polyphony.Proofs.Performance.Derived
import Polyphony.Proofs.Performance.Interleave
import Polyphony.Proofs.Player.Note
import Polyphony.Proofs.Player.Phrase
import Polyphony.Proofs.Performance.Derivation
import Polyphony.Proofs.Music.Condition
import Polyphony.Proofs.Performance.Timing
import Polyphony.Proofs.Music.Leaves
import Polyphony.Proofs.Performance.Correspondence
import Polyphony.Proofs.Music.Fold
import Polyphony.Proofs.Performance.Length
import Polyphony.Proofs.Journal.Lawful
import Polyphony.Proofs.Performance.Ensemble
import Polyphony.Proofs.Performance.Weave
import Polyphony.Proofs.Performance.Composition
import Polyphony.Proofs.Performance.Retiming
import Polyphony.Proofs.Performance.Tempo
import Polyphony.Proofs.Performance.Translation
import Polyphony.Proofs.Performance.Alike
import Polyphony.Proofs.Performance.Laws
import Polyphony.Proofs.Music.Aspect
import Polyphony.Proofs.Performance.Stack
import Polyphony.Proofs.Performance.Nesting
import Polyphony.Proofs.Binary64.Order
import Polyphony.Proofs.Binary64.Place
import Polyphony.Proofs.Binary64.Quotient
import Polyphony.Proofs.Binary64.Rounding
import Polyphony.Proofs.Journal.Safety
import Polyphony.Proofs.Message.Conversion
import Polyphony.Proofs.Message.Events
import Polyphony.Proofs.Message.Pace
import Polyphony.Proofs.Message.Release
import Polyphony.Proofs.Message.Sorted
import Polyphony.Proofs.Music.Attribute
import Polyphony.Proofs.Music.Control
import Polyphony.Proofs.Music.WellFormed
import Polyphony.Proofs.Performance.Definedness
import Polyphony.Proofs.Performance.Distribution
import Polyphony.Proofs.Performance.LowestTerms
import Polyphony.Proofs.Performance.Room
import Polyphony.Proofs.Performance.Totality
import Polyphony.Proofs.Performance.Unphrased
import Polyphony.Proofs.Player.Overflow
import Polyphony.Proofs.Player.Pointwise
import Polyphony.Proofs.Player.Retiming
import Polyphony.Proofs.Ratio.Exact
import Polyphony.Proofs.Performance.Stability
import Polyphony.Proofs.Journal.Matched
import Polyphony.Proofs.Ratio.Spelling
import Polyphony.Proofs.Music.Spelling
import Polyphony.Proofs.Player.Spelling
import Polyphony.Proofs.Performance.Spelling
import Polyphony.Proofs.Journal.Endings
import Polyphony.Proofs.Sorting.Rearrangement
import Polyphony.Proofs.Configuration.Refusal
import Polyphony.Proofs.Journal.Log
import Polyphony.Proofs.Performance.Requests
import Polyphony.Proofs.Session.Roster
import Polyphony.Proofs.Session.Uses
import Polyphony.Proofs.Performance.Chord
import Polyphony.Proofs.Music.Tasks
import Polyphony.Proofs.Music.Calls
import Polyphony.Proofs.Journal.Echoes
import Polyphony.Proofs.Music.Map
import Polyphony.Proofs.Performance.Recasting
import Polyphony.Proofs.Performance.Volume
import Polyphony.Proofs.Performance.Transposition
import Polyphony.Proofs.Journal.Consistent
import Polyphony.Proofs.Performance.Unheard
import Polyphony.Proofs.Player.Sharing
import Polyphony.Proofs.Performance.Noninterference
import Polyphony.Proofs.Binary64.Integral
import Polyphony.Proofs.Binary64.Nearest
import Polyphony.Proofs.Player.Articulation
import Polyphony.Proofs.Player.Level
import Polyphony.Proofs.Player.Exactness
import Polyphony.Proofs.Performance.Ramp
import Polyphony.Proofs.Performance.Anchor
import Polyphony.Proofs.Performance.Rosterless
import Polyphony.Proofs.Operand.Mixed
import Polyphony.Proofs.Ratio.Faults
import Polyphony.Proofs.Operand.Exact
import Polyphony.Proofs.Operand.Field
import Polyphony.Proofs.Operand.Undefined
import Polyphony.Proofs.Operand.Ordered
import Polyphony.Proofs.Ratio.Reading
import Polyphony.Proofs.Mode.Degree
import Polyphony.Proofs.Configuration.Settings
import Polyphony.Proofs.Demo.Account
import Polyphony.Proofs.Message.Sounding
import Polyphony.Proofs.Performance.Line
import Polyphony.Proofs.Demo.Octave
import Polyphony.Proofs.Ratio.Divisor
