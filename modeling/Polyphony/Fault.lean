import Polyphony.Datum.Basic
import Polyphony.Ratio.Basic

/-!
# Faults

Why an operation of the library has no result. A fault is a cause with the values that a reader
needs to find it; its wording stands in one place, `Fault.message`, and its kind in another,
`Fault.kind`. The wording gives integers in full, however many digits they have; a program that
refuses to print very long integers is not modelled.
-/

namespace Polyphony

/-- The cause of a failure. -/
inductive Fault where
  /-- A ratio in lowest terms was asked for, with zero below the line. -/
  | zeroBelow (numer : Int)
  /-- Two operands of a ratio in lowest terms, as shown, the second of which equals zero. -/
  | zeroBelowOperand (numer denom : String)
  /-- A summand has zero below the line. -/
  | undefinedSummand
  /-- A ratio is divided by a ratio with zero above the line. -/
  | zeroDivisor (dividend : Ratio)
  /-- The value of a ratio with zero below the line was asked for. -/
  | undefinedValue (numer : Int)
  /-- A ratio with zero below the line was asked for as a double. -/
  | undefinedDouble
  /-- A double is divided by zero. -/
  | zeroDoubleDivisor
  /-- A ratio is too large for a double. -/
  | ratioTooLarge
  /-- An integer is too large for a double. -/
  | integerTooLarge
  /-- An infinity was asked for as an integer. -/
  | infiniteInteger
  /-- An integer was asked of a double that is not a number. -/
  | undefinedInteger
  /-- A datum that spells no ratio. -/
  | unreadableRatio (datum : Datum)
  /-- A text or bytes, as shown, that spell no integer in a base. -/
  | unreadableInteger (base : Nat) (shown : String)
  /-- A text that spells no double. -/
  | unreadableDouble (text : String)
  /-- A word that is no word for a truth value. -/
  | unknownTruth (word : String)
  /-- A sign or digit was asked of a text that has none. -/
  | noCharacter
  /-- A datum of a type that integers are not made of. -/
  | notIntegral (typeName : String)
  /-- Operands that an arithmetic operator does not take. -/
  | operands (operator left right : String)
  /-- Operands that have no order. -/
  | unordered (operator left right : String)
  /-- Something other than a text joined to a text, or other than a list to a list. -/
  | notJoinable (typeName other : String)
  /-- A text or a list repeated by something other than an integer. -/
  | notRepeatable (other : String)
  /-- A text or a list repeated more often than anything can be counted. -/
  | countTooLarge
  /-- A repeated text longer than anything can be. -/
  | textTooLong
  /-- A result that does not fit into memory. -/
  | outOfMemory
  /-- An operand that has no negative. -/
  | noNegative (typeName : String)
  /-- An operand that has no absolute value. -/
  | noMagnitude (typeName : String)
  /-- An operand that has no hash. -/
  | unhashable (typeName : String)
  /-- A view was asked of a value of a type that does not have it. -/
  | noView (typeName view : String)
  /-- There is no roster to find a player in. -/
  | noRosterToAsk
  /-- There is no roster to look up a name in. -/
  | noRosterToSearch
  /-- A tempo that is zero or negative. -/
  | tempoNotPositive (ratio : Ratio)
  /-- A channel number outside the range of channels. -/
  | channelOutside (number : Int)
  /-- A number that no channel carries. -/
  | notChannel (number : Int)
  /-- A number that no pitch class carries. -/
  | notPitchClass (number : Int)
  /-- A note name that is not known. -/
  | unknownNote (name : String)
  /-- A mode that is not registered, with those that are. -/
  | unknownMode (name : String) (known : List String)
  /-- A mode without the tonic as its first step. -/
  | modeWithoutTonic
  /-- A mode whose steps do not ascend. -/
  | modeNotAscending
  /-- A mode that passes the octave. -/
  | modeTooWide
  /-- A number in the place of a piece of music. -/
  | strayPiece (number : Int)
  /-- A number in the place of a control. -/
  | strayControl (number : Int)
  /-- A work list asks for a result that no earlier step left. -/
  | noResult
  /-- Phrases are nested deeper than there is room for. -/
  | nestedTooDeep
  /-- A tempo in beats per minute that is not positive. -/
  | beatsNotPositive
  /-- A sounding pitch that no message can carry. -/
  | pitchOutside (pitch : Int) (time : Binary64)
  /-- A context section that is no mapping. -/
  | sectionNotMapping
  /-- Keys of the context section that are not known, as shown, with those that are. -/
  | unknownKeys (shown known : List String)
  /-- A value of the context section that cannot be read, and why. -/
  | invalidValue (key : String) (cause : Fault)
  /-- A configuration document that is no mapping. -/
  | documentNotMapping (path typeName : String)
  /-- A configuration document that is not well formed. -/
  | malformedDocument
  /-- Numbers that are no moment. -/
  | noMoment (flaw : Moment.Flaw)
  /-- Two times, only one of which says how far its clock is ahead, have no order. -/
  | clocksApart
  /-- A day and a time have no order. -/
  | dayAgainstTime
  /-- A code that no character has. -/
  | codeOutside
  /-- A code that is too large to look up. -/
  | codeTooLarge
deriving DecidableEq, Inhabited

/-- What a reader is told about a flaw of a moment. -/
def Moment.Flaw.message : Moment.Flaw → String
  | year number => "year " ++ toString number ++ " is out of range"
  | month => "month must be in 1..12"
  | day => "day is out of range for month"
  | hour => "hour must be in 0..23"
  | minute => "minute must be in 0..59"
  | second => "second must be in 0..59"
  | ahead minutes =>
    "offset must be a timedelta strictly between -timedelta(hours=24) and timedelta(hours=24), " ++
      "not " ++ Moment.shownSpan minutes ++ "."

namespace Fault

/-- The kinds of faults. -/
inductive Kind where
  | value
  | type
  | zeroDivision
  | overflow
  | configuration
  | document
  | memory
  | recursion
  | missing
  | key
  | index
deriving DecidableEq, Inhabited

/-- The kind of a fault. -/
def kind : Fault → Kind
  | zeroBelow _ | zeroBelowOperand .. | undefinedSummand | zeroDivisor _ => .zeroDivision
  | undefinedValue _ | undefinedDouble | zeroDoubleDivisor => .zeroDivision
  | ratioTooLarge | integerTooLarge | infiniteInteger => .overflow
  | countTooLarge | textTooLong | codeTooLarge => .overflow
  | outOfMemory => .memory
  | nestedTooDeep => .recursion
  | noView .. => .missing
  | noRosterToAsk | noRosterToSearch | clocksApart | dayAgainstTime => .type
  | noNegative _ | noMagnitude _ | unhashable _ => .type
  | undefinedInteger | unreadableRatio _ | unreadableInteger .. => .value
  | notIntegral _ | operands .. | unordered .. | notJoinable .. | notRepeatable _ => .type
  | tempoNotPositive _ | channelOutside _ | notChannel _ | notPitchClass _ | unknownNote _ => .value
  | unknownMode .. | modeWithoutTonic | modeNotAscending | modeTooWide => .value
  | strayPiece _ | strayControl _ | noResult => .type
  | beatsNotPositive | pitchOutside .. | codeOutside | noMoment _ | unreadableDouble _ => .value
  | unknownTruth _ => .key
  | noCharacter => .index
  | sectionNotMapping | unknownKeys .. | invalidValue .. | documentNotMapping .. => .configuration
  | malformedDocument => .document

/-- What a reader is told about a fault. -/
def message : Fault → String
  | zeroBelow numer => "Rational denominator cannot be zero (" ++ toString numer ++ "/0)"
  | zeroBelowOperand numer denom =>
    "Rational denominator cannot be zero (" ++ numer ++ "/" ++ denom ++ ")"
  | undefinedSummand => "Cannot add a rational with a zero denominator"
  | zeroDivisor dividend => "Cannot divide " ++ dividend.text ++ " by zero"
  | undefinedValue numer => "Fraction(" ++ toString numer ++ ", 0)"
  | undefinedDouble => "division by zero"
  | zeroDoubleDivisor => "float division by zero"
  | ratioTooLarge => "integer division result too large for a float"
  | integerTooLarge => "int too large to convert to float"
  | infiniteInteger => "cannot convert float infinity to integer"
  | undefinedInteger => "cannot convert float NaN to integer"
  | unreadableRatio (.text s) =>
    "Cannot read a rational from " ++ Text.quoted s ++ ". Expected e.g. '1/4' or '3'."
  | unreadableRatio datum => "Cannot read a rational from " ++ datum.shown
  | unreadableInteger base shown =>
    "invalid literal for int() with base " ++ toString base ++ ": " ++
      String.ofList (shown.toList.take 200)
  | unreadableDouble text => "could not convert string to float: " ++ Text.quoted text
  | unknownTruth word => Text.quoted word
  | noCharacter => "string index out of range"
  | notIntegral typeName =>
    "int() argument must be a string, a bytes-like object or a real number, not '" ++ typeName ++
      "'"
  | operands operator left right =>
    "unsupported operand type(s) for " ++ operator ++ ": '" ++ left ++ "' and '" ++ right ++ "'"
  | unordered operator left right =>
    "'" ++ operator ++ "' not supported between instances of '" ++ left ++ "' and '" ++ right ++ "'"
  | notJoinable typeName other =>
    "can only concatenate " ++ typeName ++ " (not \"" ++ other ++ "\") to " ++ typeName
  | notRepeatable other => "can't multiply sequence by non-int of type '" ++ other ++ "'"
  | countTooLarge => "cannot fit 'int' into an index-sized integer"
  | textTooLong => "repeated string is too long"
  | outOfMemory => ""
  | noNegative typeName => "bad operand type for unary -: '" ++ typeName ++ "'"
  | noMagnitude typeName => "bad operand type for abs(): '" ++ typeName ++ "'"
  | unhashable typeName => "unhashable type: '" ++ typeName ++ "'"
  | noRosterToAsk => "'NoneType' object is not callable"
  | noRosterToSearch => "argument of type 'NoneType' is not iterable"
  | noView typeName view => "'" ++ typeName ++ "' object has no attribute '" ++ view ++ "'"
  | tempoNotPositive ratio => "Tempo ratio must be positive, got " ++ ratio.text
  | channelOutside number => "MIDI channel must be between 1 and 16, got " ++ toString number
  | notChannel number => toString number ++ " is not a valid MidiChannel"
  | notPitchClass number => toString number ++ " is not a valid PitchClass"
  | unknownNote name =>
    "Unknown key name: " ++ Text.quoted name ++ ". Expected e.g. 'C', 'F#', 'Bb'."
  | unknownMode name known =>
    "Unknown mode '" ++ name ++ "'. Available: " ++ Text.quotedList known
  | modeWithoutTonic => "Mode intervals must start at 0"
  | modeNotAscending => "Mode intervals must be strictly ascending"
  | modeTooWide => "Mode intervals must stay within one octave (0-11)"
  | strayPiece number => "Not a Music node: " ++ toString number
  | strayControl number => "Unknown control: " ++ toString number
  | noResult => "a step of the work list has no result to take"
  | nestedTooDeep => "maximum recursion depth exceeded"
  | beatsNotPositive => "BPM must be positive"
  | pitchOutside pitch time =>
    "Pitch " ++ toString pitch ++ " at time " ++ time.shown ++ " is outside the MIDI range 0-127"
  | sectionNotMapping => "The 'context' section must be a mapping"
  | unknownKeys shown known =>
    "Unknown context keys: " ++ Text.bracketed shown ++ ". Expected some of " ++
      Text.quotedList known
  | invalidValue key cause => "Invalid context." ++ key ++ ": " ++ cause.message
  | documentNotMapping path typeName =>
    "Config file " ++ path ++ " must contain a mapping, got " ++ typeName
  | malformedDocument => "the document is not well formed"
  | noMoment flaw => flaw.message
  | clocksApart => "can't compare offset-naive and offset-aware datetimes"
  | dayAgainstTime => "can't compare datetime.datetime to datetime.date"
  | codeOutside => "chr() arg not in range(0x110000)"
  | codeTooLarge => "Python int too large to convert to C int"

end Fault

end Polyphony
