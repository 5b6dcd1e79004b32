import Polyphony.Fault
import Polyphony.Text.Digit
import Polyphony.Yaml.Cursor

/-!
# Words of a document

The texts that stand within lines: plain ones, which end where a line or a sign of structure does,
and quoted ones, in single or double quotes. Line breaks inside either are folded.
-/

namespace Polyphony.Yaml

/-- The outcome of reading what is no document. -/
def malformed {α : Type} : Except Fault α := throw .malformedDocument

/-- The signs that structure lists and mappings in brackets. -/
def isFlowSign (c : Char) : Bool :=
  c = ',' || c = '[' || c = ']' || c = '{' || c = '}'

/-- The signs that a plain text must not begin with. -/
def isIndicator (c : Char) : Bool :=
  "-?:,[]{}#&*!|>\x27\"%@`".toList.contains c

/-- A plain text may begin here, in brackets or not. -/
def startsPlain (flow : Bool) : List Char → Bool
  | [] => false
  | c :: cs =>
    (!isIndicator c && !isBlank c) ||
      (!startsBlank cs && (c = '-' || (!flow && (c = '?' || c = ':'))))

/-- A plain text ends before these characters, in brackets or not. -/
def endsPlain (flow : Bool) : List Char → Bool
  | [] => true
  | c :: cs =>
    isBlank c || (flow && (isFlowSign c || c = '?')) ||
      (c = ':' && (startsBlank cs || (flow && cs.head?.any isFlowSign)))

/-- The characters of a plain text up to a blank or its end. -/
def takePlain (flow : Bool) : List Char → List Char
  | [] => []
  | c :: cs => if endsPlain flow (c :: cs) then [] else c :: takePlain flow cs

/-- A text with the place after it. -/
structure Word where
  /-- The text. -/
  text : List Char
  /-- The place after the text and the blanks that end it. -/
  next : Cursor
  /-- Those blanks hold a line break. -/
  endsLine : Bool

/-- The gap after a part of a plain text: what it stands for inside the text, the place after it,
and whether the text may go on there. Outside of brackets it goes on only from a column. -/
def plainGap (flow : Bool) (column : Nat) (cursor : Cursor) : List Char × Cursor × Bool :=
  let (spaces, after) := cursor.span (· = ' ')
  match after.takeBreak with
  | ([], _) => (spaces, after, !spaces.isEmpty && after.rest.head? ≠ some '#')
  | (first, start) =>
    let (breaks, stopped, next) := start.skipLines (· = ' ')
    (foldBreaks first breaks, next,
      !stopped && next.rest.head? ≠ some '#' && (flow || column ≤ next.column))

/-- Reads the parts of a plain text. -/
def readPlainParts (flow : Bool) (column : Nat) : Nat → Cursor → Word
  | 0, cursor => ⟨[], cursor, false⟩
  | fuel + 1, cursor =>
    match takePlain flow cursor.rest with
    | [] => ⟨[], cursor, false⟩
    | part =>
      let here := cursor.forward part.length
      let (gap, next, goesOn) := plainGap flow column here
      let alone : Word := ⟨part, next, next.line ≠ here.line⟩
      if goesOn then
        match readPlainParts flow column fuel next with
        | ⟨[], _, _⟩ => alone
        | more => { more with text := part ++ gap ++ more.text }
      else alone

/-- Reads a plain text. Outside of brackets it may go on in further lines from a column. -/
def readPlain (flow : Bool) (column : Nat) (cursor : Cursor) : Word :=
  readPlainParts flow column cursor.rest.length cursor

/-- The characters that a backslash and a letter stand for. -/
def escapes : List (Char × Char) := [
  ('0', '\x00'), ('a', '\x07'), ('b', '\x08'), ('t', '\t'), ('\t', '\t'), ('n', '\n'),
  ('v', '\x0b'), ('f', '\x0c'), ('r', '\r'), ('e', '\x1b'), (' ', ' '), ('\x22', '\x22'),
  ('\\', '\\'), ('/', '/'), ('N', '\u0085'), ('_', '\u00a0'), ('L', '\u2028'), ('P', '\u2029')
]

/-- The digits of a character code after a letter. -/
def codeSizes : List (Char × Nat) := [('x', 2), ('u', 4), ('U', 8)]

/-- The code in hexadecimal digits at the start of a text, if there are as many as asked for. -/
def codeAt? (size : Nat) (cs : List Char) : Option Nat :=
  let digits := cs.take size
  if digits.length = size && digits.all fun c => (Text.digitIn? 16 c).isSome then
    some (Text.valueIn 16 digits)
  else none

/-- The code of the second half of a character, written at the start of a text. -/
def secondHalf? : List Char → Option Nat
  | '\\' :: 'u' :: cs => (codeAt? 4 cs).filter fun code => 0xDC00 ≤ code && code ≤ 0xDFFF
  | _ => none

/-- The character with a code, and the number of characters after the code that belong to it. The
code of a first half takes that of the second half after it; a half on its own stands for the
replacement character. -/
def charOfCode (code : Nat) (following : List Char) : Except Fault (Char × Nat) :=
  if code.isValidChar then pure (Char.ofNat code, 0)
  else if 0x110000 ≤ code then throw (if code < Nat.pow 2 31 then .codeOutside else .codeTooLarge)
  else
    match if code ≤ 0xDBFF then secondHalf? following else none with
    | some second => pure (Char.ofNat (0x10000 + (code - 0xD800) * 0x400 + (second - 0xDC00)), 6)
    | none => pure ('\ufffd', 0)

/-- Passes over the blank lines inside a quoted text: their breaks and the place after them. A
document marker must not stand there. -/
def skipQuotedLines (cursor : Cursor) : Except Fault (List Char × Cursor) :=
  match cursor.skipLines isSpace with
  | (_, true, _) => malformed
  | (breaks, false, next) => pure (breaks, next)

/-- Reads what follows a backslash in double quotes: the text that it stands for and the place after
it. -/
def readEscape (cursor : Cursor) : Except Fault (List Char × Cursor) :=
  match cursor.rest with
  | [] => malformed
  | c :: cs =>
    match escapes.lookup c, codeSizes.lookup c with
    | some d, _ => pure ([d], cursor.next)
    | none, some size =>
      match codeAt? size cs with
      | some code => do
        let (d, more) ← charOfCode code (cs.drop size)
        return ([d], cursor.forward (size + 1 + more))
      | none => malformed
    | none, none => if isBreak c then skipQuotedLines cursor.next else malformed

/-- Reads a quoted text up to its closing quote. -/
def readQuotedParts (quote : Char) : Nat → Cursor → Except Fault (List Char × Cursor)
  | 0, _ => malformed
  | fuel + 1, cursor =>
    match cursor.rest with
    | [] => malformed
    | c :: cs =>
      if c = quote then
        if quote = '\x27' && cs.head? = some quote then do
          let (text, last) ← readQuotedParts quote fuel (cursor.forward 2)
          return (quote :: text, last)
        else pure ([], cursor.next)
      else if c = '\\' && quote = '\x22' then do
        let (part, next) ← readEscape cursor.next
        let (text, last) ← readQuotedParts quote fuel next
        return (part ++ text, last)
      else if isBlank c then do
        let (blanks, after) := cursor.span isSpace
        match after.takeBreak with
        | ([], _) =>
          let (text, last) ← readQuotedParts quote fuel after
          return (blanks ++ text, last)
        | (first, start) =>
          let (breaks, next) ← skipQuotedLines start
          let (text, last) ← readQuotedParts quote fuel next
          return (foldBreaks first breaks ++ text, last)
      else do
        let (text, last) ← readQuotedParts quote fuel cursor.next
        return (c :: text, last)

/-- Reads a quoted text from its opening quote. -/
def readQuoted (quote : Char) (cursor : Cursor) : Except Fault (List Char × Cursor) :=
  readQuotedParts quote cursor.rest.length cursor.next

end Polyphony.Yaml
