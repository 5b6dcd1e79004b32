/-!
# Places in a document

Where a reader stands: the characters that follow, with the line and the column that they begin in.
Spaces, comments and line breaks between the parts of a document form gaps.
-/

namespace Polyphony.Yaml

/-- A place in a document. -/
structure Cursor where
  /-- The number of characters before it. -/
  index : Nat
  /-- The line, counted from zero. -/
  line : Nat
  /-- The column, counted from zero. -/
  column : Nat
  /-- The characters that follow. -/
  rest : List Char

/-- A line break: the line feed, which stands for every common one, or a separator of lines or of
paragraphs. -/
def isBreak (c : Char) : Bool := c = '\n' || c = '\u2028' || c = '\u2029'

/-- A blank within a line. -/
def isSpace (c : Char) : Bool := c = ' ' || c = '\t'

/-- A blank within a line, or a line break. -/
def isBlank (c : Char) : Bool := isSpace c || isBreak c

/-- Nothing or a blank follows. -/
def startsBlank : List Char → Bool
  | [] => true
  | c :: _ => isBlank c

/-- Nothing or a blank other than a tab follows. -/
def startsGap : List Char → Bool
  | [] => true
  | c :: _ => c = ' ' || isBreak c

/-- Three hyphens or three points, which start and end documents. -/
def startsMarker : List Char → Bool
  | '-' :: '-' :: '-' :: cs => startsBlank cs
  | '.' :: '.' :: '.' :: cs => startsBlank cs
  | _ => false

namespace Cursor

/-- The place where a text starts. -/
def start (cs : List Char) : Cursor := ⟨0, 0, 0, cs⟩

/-- The place after one character. A break starts a line; a byte order mark takes no column. -/
def next (cursor : Cursor) : Cursor :=
  match cursor.rest with
  | [] => cursor
  | c :: cs =>
    if isBreak c then ⟨cursor.index + 1, cursor.line + 1, 0, cs⟩
    else if c = '\ufeff' then ⟨cursor.index + 1, cursor.line, cursor.column, cs⟩
    else ⟨cursor.index + 1, cursor.line, cursor.column + 1, cs⟩

/-- The place some characters further. -/
def forward (cursor : Cursor) : Nat → Cursor
  | 0 => cursor
  | count + 1 => cursor.next.forward count

/-- The characters that follow as long as they pass a test, and the place after them. -/
def span (cursor : Cursor) (test : Char → Bool) : List Char × Cursor :=
  let taken := cursor.rest.takeWhile test
  (taken, cursor.forward taken.length)

/-- The place after the spaces that follow. -/
def skipSpaces (cursor : Cursor) : Cursor := (cursor.span (· = ' ')).2

/-- The line break that follows, if there is one, and the place after it. -/
def takeBreak (cursor : Cursor) : List Char × Cursor :=
  match cursor.rest with
  | c :: _ => if isBreak c then ([c], cursor.next) else ([], cursor)
  | [] => ([], cursor)

/-- A document marker follows, at the start of a line. -/
def atMarker (cursor : Cursor) : Bool :=
  cursor.column = 0 && startsMarker cursor.rest

/-- Skips spaces, comments and line breaks in some characters that follow, in a comment or not. -/
def skipFrom (comment : Bool) (cursor : Cursor) : List Char → Cursor
  | [] => cursor
  | c :: cs =>
    if isBreak c then skipFrom false cursor.next cs
    else if comment || c = '#' then skipFrom true cursor.next cs
    else if c = ' ' then skipFrom false cursor.next cs
    else cursor

/-- The place after a gap. Tabs are no part of a gap. -/
def skipGap (cursor : Cursor) : Cursor := cursor.skipFrom false cursor.rest

/-- What passes over blank lines: their breaks in reverse, whether a document marker stopped it, and
the place after them. A test tells what is blank at the start of a line. -/
def skipLinesFrom (blank : Char → Bool) (breaks : List Char) (cursor : Cursor) :
    List Char → List Char × Bool × Cursor
  | [] => (breaks, false, cursor)
  | c :: cs =>
    if cursor.atMarker then (breaks, true, cursor)
    else if isBreak c then skipLinesFrom blank (c :: breaks) cursor.next cs
    else if blank c then skipLinesFrom blank breaks cursor.next cs
    else (breaks, false, cursor)

/-- Passes over blank lines from the start of a line: their breaks, whether a document marker
stopped it, and the place after them. -/
def skipLines (cursor : Cursor) (blank : Char → Bool) : List Char × Bool × Cursor :=
  let (breaks, stopped, next) := cursor.skipLinesFrom blank [] cursor.rest
  (breaks.reverse, stopped, next)

end Cursor

/-- What a folded line break stands for, given the breaks of the empty lines after it: those, or a
space if there are none. A separator of lines or of paragraphs stands for itself. -/
def foldBreaks (first : List Char) (breaks : List Char) : List Char :=
  if first ≠ ['\n'] then first ++ breaks else if breaks.isEmpty then [' '] else breaks

end Polyphony.Yaml
