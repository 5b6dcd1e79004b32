import Polyphony.Yaml.Words

/-!
# Literal and folded texts

Texts that stand in lines of their own below a bar, which keeps their line breaks, or a sign that
folds them. A header may say how far the lines are indented and what becomes of the breaks at the
end.
-/

namespace Polyphony.Yaml

/-- What becomes of the line breaks at the end of a text. -/
inductive Ending where
  /-- All are dropped. -/
  | strip
  /-- The first is kept. -/
  | clip
  /-- All are kept. -/
  | keep
deriving DecidableEq

/-- The ending that a sign asks for. -/
def Ending.ofSign? : Char → Option Ending
  | '-' => some .strip
  | '+' => some .keep
  | _ => none

/-- What a header says: the ending, and the indentation, if it is given. -/
structure Header where
  /-- What becomes of the line breaks at the end. -/
  ending : Ending
  /-- The indentation below that of the surrounding lines. -/
  indent : Option Nat

/-- The place after the rest of a line, which may hold nothing but a comment. -/
def endLine (cursor : Cursor) : Except Fault Cursor :=
  let here := cursor.skipSpaces
  let here := if here.rest.head? = some '#' then (here.span (!isBreak ·)).2 else here
  if here.rest.head?.all isBreak then pure here.takeBreak.2 else malformed

/-- The sign for an ending, if one follows, and the place after it. -/
def takeEnding (cursor : Cursor) : Option Ending × Cursor :=
  match cursor.rest.head?.bind Ending.ofSign? with
  | some ending => (some ending, cursor.next)
  | none => (none, cursor)

/-- The digit for an indentation, if one follows, and the place after it. -/
def takeIndent (cursor : Cursor) : Option Nat × Cursor :=
  match cursor.rest.head?.bind (Text.digitIn? 10) with
  | some indent => (some indent, cursor.next)
  | none => (none, cursor)

/-- Reads a header: the two signs in either order. -/
def readHeader (cursor : Cursor) : Except Fault (Header × Cursor) := do
  let (first, here) := takeEnding cursor
  let (indent, here) := takeIndent here
  let (second, here) := if first.isNone && indent.isSome then takeEnding here else (none, here)
  if indent = some 0 || !startsGap here.rest then malformed
  return (⟨(first.or second).getD .clip, indent⟩, ← endLine here)

/-- Passes over blank lines: their breaks in reverse, the widest indentation among them and the
line after them, and the place of that line's first character. -/
def measureLines (breaks : List Char) (widest : Nat) (cursor : Cursor) :
    List Char → List Char × Nat × Cursor
  | [] => (breaks, widest, cursor)
  | c :: cs =>
    if isBreak c then measureLines (c :: breaks) widest cursor.next cs
    else if c = ' ' then measureLines breaks (max widest cursor.next.column) cursor.next cs
    else (breaks, widest, cursor)

/-- Passes over empty lines and the indentation, given by its column: the breaks in reverse and the
place after them. -/
def skipIndent (column : Nat) (breaks : List Char) (cursor : Cursor) :
    List Char → List Char × Cursor
  | [] => (breaks, cursor)
  | c :: cs =>
    if isBreak c then skipIndent column (c :: breaks) cursor.next cs
    else if c = ' ' && cursor.column < column then skipIndent column breaks cursor.next cs
    else (breaks, cursor)

/-- The lines of a text. -/
structure Lines where
  /-- The text up to the end of its last line. -/
  text : List Char
  /-- The break after the last line. -/
  last : List Char
  /-- The breaks of the empty lines after it. -/
  empty : List Char
  /-- The place after them. -/
  next : Cursor

/-- A line goes on in a column. -/
def continuesAt (column : Nat) (cursor : Cursor) : Bool :=
  cursor.column = column && !cursor.rest.isEmpty

/-- Reads the lines in a column, given the breaks of the empty lines before them. A break between
two lines that begin with no blank is folded, if the text is. -/
def readLines (folded : Bool) (column : Nat) : Nat → List Char → Cursor → Lines
  | 0, breaks, cursor => ⟨[], [], breaks, cursor⟩
  | fuel + 1, breaks, cursor =>
    if continuesAt column cursor then
      let (line, after) := cursor.span (!isBreak ·)
      let (last, start) := after.takeBreak
      let (reversed, next) := skipIndent column [] start start.rest
      let empty := reversed.reverse
      if continuesAt column next then
        let more := readLines folded column fuel empty next
        let joint :=
          if folded && last = ['\n'] && !cursor.rest.head?.any isSpace &&
              !next.rest.head?.any isSpace then
            if empty.isEmpty then [' '] else []
          else last
        { more with text := breaks ++ line ++ joint ++ more.text }
      else ⟨breaks ++ line, last, empty, next⟩
    else ⟨[], [], breaks, cursor⟩

/-- The text of lines, with an ending. -/
def Lines.close (lines : Lines) : Ending → List Char
  | .strip => lines.text
  | .clip => lines.text ++ lines.last
  | .keep => lines.text ++ lines.last ++ lines.empty

/-- Reads a literal or folded text from the place after its sign. Its lines stand at or after a
column. -/
def readLiteral (folded : Bool) (column : Nat) (cursor : Cursor) :
    Except Fault (List Char × Cursor) := do
  let (header, start) ← readHeader cursor
  let least := max column 1
  let (indent, reversed, first) := match header.indent with
    | some indent =>
      let deep := least + indent - 1
      (deep, skipIndent deep [] start start.rest)
    | none =>
      let (reversed, widest, first) := measureLines [] 0 start start.rest
      (max least widest, reversed, first)
  let lines := readLines folded indent (first.rest.length + 1) reversed.reverse first
  return (lines.close header.ending, lines.next)

end Polyphony.Yaml
