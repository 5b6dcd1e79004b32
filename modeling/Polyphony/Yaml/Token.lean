import Polyphony.Yaml.Label

/-!
# Tokens

The signs and texts of a document in their order. Lists and mappings laid out by indentation start
and end with tokens of their own, which follow from the columns, and a key is marked by a token
before it, which follows from the colon after it.
-/

namespace Polyphony.Yaml

/-- A part of a document. -/
inductive Token where
  /-- A bracket that opens a list. -/
  | openList
  /-- A bracket that closes a list. -/
  | closeList
  /-- A brace that opens a mapping. -/
  | openMapping
  /-- A brace that closes a mapping. -/
  | closeMapping
  /-- A comma. -/
  | comma
  /-- The start of a list laid out by indentation. -/
  | startList
  /-- The start of a mapping laid out by indentation. -/
  | startMapping
  /-- The end of a list or mapping laid out by indentation. -/
  | endBlock
  /-- The start of an item. -/
  | item
  /-- The start of a key. -/
  | key
  /-- The start of the value of a key. -/
  | value
  /-- A text, plain or not. -/
  | text (plain : Bool) (s : String)
  /-- The name of a mark on the value that follows. -/
  | mark (name : String)
  /-- The name of a mark in place of the value that has it. -/
  | reference (name : String)
  /-- The tag of the value that follows: its handle, if it has one, and its text. -/
  | tag (handle : Option String) (s : String)
  /-- A directive. -/
  | directive (d : Directive)
  /-- The marker that starts a document. -/
  | startDocument
  /-- The marker that ends a document. -/
  | endDocument
deriving DecidableEq

/-- A place where a key may have begun. -/
structure KeyPlace where
  /-- The number of open brackets there. -/
  depth : Nat
  /-- The number of tokens before it. -/
  before : Nat
  /-- The place in the text. -/
  start : Cursor
  /-- Nothing but a key may stand there, as it has the column of the entries around it. -/
  required : Bool

namespace KeyPlace

/-- A key and its colon stand on one line, not far apart. -/
def reaches (place : KeyPlace) (cursor : Cursor) : Bool :=
  place.start.line = cursor.line && cursor.index ≤ place.start.index + 1024

end KeyPlace

/-- The layout of the part of a document that has been read. -/
structure Layout where
  /-- The place after that part. -/
  cursor : Cursor
  /-- Its tokens, the last one first. -/
  tokens : List Token
  /-- The number of its tokens. -/
  size : Nat
  /-- The number of open brackets. -/
  depth : Nat
  /-- The columns of the open lists and mappings laid out by indentation, the innermost first. -/
  columns : List Nat
  /-- A key, or an item or entry laid out by indentation, may begin at the place. -/
  keyAllowed : Bool
  /-- The places where a key may have begun, at most one for each depth. -/
  keys : List KeyPlace

namespace Layout

/-- The layout before anything is read. -/
def start (cs : List Char) : Layout := ⟨.start cs, [], 0, 0, [], true, []⟩

/-- Some bracket is open. -/
def inBrackets (layout : Layout) : Bool := layout.depth ≠ 0

/-- Adds a token after some of the others. -/
def pushAfter (layout : Layout) (before : Nat) (token : Token) : Layout :=
  { layout with
    tokens := layout.tokens.insertIdx (layout.size - before) token
    size := layout.size + 1 }

/-- Adds a token. -/
def push (layout : Layout) (token : Token) : Layout :=
  layout.pushAfter layout.size token

/-- Moves the place forward. -/
def forward (layout : Layout) (count : Nat) : Layout :=
  { layout with cursor := layout.cursor.forward count }

/-- Sets whether a key may begin at the place. -/
def allowKey (layout : Layout) (allowed : Bool) : Layout :=
  { layout with keyAllowed := allowed }

/-- The least column of what stands inside the innermost list or mapping. -/
def least (layout : Layout) : Nat := (layout.columns.head?.map (· + 1)).getD 0

/-- Ends the innermost lists and mappings, so many of them, unless brackets are open. -/
def closeBlocks (layout : Layout) (count : Nat) : Layout :=
  if layout.inBrackets then layout
  else
    { layout with
      tokens := List.replicate count .endBlock ++ layout.tokens
      size := layout.size + count
      columns := layout.columns.drop count }

/-- Ends the lists and mappings beyond a column, unless brackets are open. -/
def closeBeyond (layout : Layout) (column : Nat) : Layout :=
  layout.closeBlocks (layout.columns.takeWhile (column < ·)).length

/-- Ends all lists and mappings, unless brackets are open. -/
def closeAll (layout : Layout) : Layout :=
  layout.closeBlocks layout.columns.length

/-- Starts a list or mapping in a column, after some of the tokens, unless brackets are open or the
column belongs to one that is open. -/
def openBlock (layout : Layout) (column before : Nat) (token : Token) : Layout :=
  if layout.inBrackets || column < layout.least then layout
  else { layout.pushAfter before token with columns := column :: layout.columns }

/-- The place where a key may have begun, at the present depth. -/
def key? (layout : Layout) : Option KeyPlace :=
  layout.keys.find? (·.depth = layout.depth)

/-- Gives up some of the places where a key may have begun, none of which may be required. -/
def dropKeys (layout : Layout) (test : KeyPlace → Bool) : Except Fault Layout :=
  if layout.keys.any fun place => test place && place.required then malformed
  else pure { layout with keys := layout.keys.filter fun place => !test place }

/-- Gives up the place at the present depth. -/
def dropKey (layout : Layout) : Except Fault Layout :=
  layout.dropKeys (·.depth = layout.depth)

/-- Notes that a key may begin here, where one is allowed. -/
def noteKey (layout : Layout) : Except Fault Layout := do
  if !layout.keyAllowed then return layout
  let layout ← layout.dropKey
  let place : KeyPlace := {
    depth := layout.depth
    before := layout.size
    start := layout.cursor
    required := !layout.inBrackets && layout.columns.head? = some layout.cursor.column }
  return { layout with keys := place :: layout.keys }

/-- Adds a token that a key may begin with, and moves to the place after it. A key may begin there
only if it is said so. -/
def pushWord (layout : Layout) (token : Token) (next : Cursor) (allowed : Bool) :
    Except Fault Layout := do
  let layout ← layout.noteKey
  return { layout.push token with cursor := next, keyAllowed := allowed }

/-- Reads a bracket that opens. -/
def openBracket (layout : Layout) (token : Token) : Except Fault Layout := do
  let layout ← layout.pushWord token layout.cursor.next true
  return { layout with depth := layout.depth + 1 }

/-- Reads a bracket that closes; some bracket must be open. -/
def closeBracket (layout : Layout) (token : Token) : Except Fault Layout := do
  if !layout.inBrackets then malformed
  let layout ← layout.dropKey
  return (({ layout with depth := layout.depth - 1 }.push token).forward 1).allowKey false

/-- Reads a comma. -/
def readComma (layout : Layout) : Except Fault Layout := do
  return (((← layout.dropKey).push .comma).forward 1).allowKey true

/-- Starts a list or mapping at the place, which must be one where a key may begin, unless brackets
are open. -/
def openHere (layout : Layout) (token : Token) : Except Fault Layout :=
  if layout.inBrackets then pure layout
  else if layout.keyAllowed then
    pure (layout.openBlock layout.cursor.column layout.size token)
  else malformed

/-- Reads the hyphen of an item. -/
def readItem (layout : Layout) : Except Fault Layout := do
  let layout ← (← layout.openHere .startList).dropKey
  return ((layout.push .item).forward 1).allowKey true

/-- Reads a question mark before a key. -/
def readQuestion (layout : Layout) : Except Fault Layout := do
  let layout ← (← layout.openHere .startMapping).dropKey
  return ((layout.push .key).forward 1).allowKey !layout.inBrackets

/-- Reads a colon. It makes a key of what stands after the place where a key may have begun. -/
def readColon (layout : Layout) : Except Fault Layout := do
  match layout.key? with
  | some place =>
    let layout := layout.pushAfter place.before .key
    let layout := layout.openBlock place.start.column place.before .startMapping
    let keys := layout.keys.filter (·.depth ≠ layout.depth)
    return (({ layout with keys }.push .value).forward 1).allowKey false
  | none =>
    let layout ← (← layout.openHere .startMapping).dropKey
    return ((layout.push .value).forward 1).allowKey !layout.inBrackets

/-- Reads a document marker. -/
def readMarker (layout : Layout) : Except Fault Layout := do
  let token := if layout.cursor.rest.head? = some '-' then Token.startDocument else .endDocument
  return (((← layout.closeAll.dropKey).push token).forward 3).allowKey false

/-- Reads a directive. -/
def readDirectiveLine (layout : Layout) : Except Fault Layout := do
  let layout ← layout.closeAll.dropKey
  let (directive, next) ← readDirective layout.cursor.next
  return { layout.push (.directive directive) with cursor := next, keyAllowed := false }

/-- Reads a literal or folded text. -/
def readLines (layout : Layout) (folded : Bool) : Except Fault Layout := do
  let layout ← layout.dropKey
  let (text, next) ← readLiteral folded layout.least layout.cursor.next
  return { layout.push (.text false (String.ofList text)) with cursor := next, keyAllowed := true }

/-- Reads a text in quotes. -/
def readQuotes (layout : Layout) (quote : Char) : Except Fault Layout := do
  let (text, next) ← readQuoted quote layout.cursor
  layout.pushWord (.text false (String.ofList text)) next false

/-- Reads a plain text. -/
def readWord (layout : Layout) : Except Fault Layout :=
  let word := readPlain layout.inBrackets layout.least layout.cursor
  layout.pushWord (.text true (String.ofList word.text)) word.next word.endsLine

/-- Moves over the gap at the place. After a line break a key may begin, unless brackets are open.
Places that a key can no longer reach from are given up, and what the column ends is ended. -/
def settle (layout : Layout) : Except Fault Layout := do
  let next := layout.cursor.skipGap
  let fresh := !layout.inBrackets && next.line ≠ layout.cursor.line
  let layout := { layout with cursor := next, keyAllowed := layout.keyAllowed || fresh }
  let layout ← layout.dropKeys (!·.reaches next)
  return layout.closeBeyond next.column

/-- Reads what begins with a character that is not read as a part of a plain text. -/
def readSign (layout : Layout) (sign : Char) : Except Fault Layout :=
  match sign with
  | '[' => layout.openBracket .openList
  | '{' => layout.openBracket .openMapping
  | ']' => layout.closeBracket .closeList
  | '}' => layout.closeBracket .closeMapping
  | ',' => layout.readComma
  | '-' => layout.readItem
  | '?' => layout.readQuestion
  | ':' => layout.readColon
  | '&' => do
    let (name, next) ← readMark layout.cursor.next
    layout.pushWord (.mark name) next false
  | '*' => do
    let (name, next) ← readMark layout.cursor.next
    layout.pushWord (.reference name) next false
  | '!' => do
    let (handle, text, next) ← readTag layout.cursor
    layout.pushWord (.tag handle text) next false
  | '|' => if layout.inBrackets then malformed else layout.readLines false
  | '>' => if layout.inBrackets then malformed else layout.readLines true
  | '\x22' => layout.readQuotes sign
  | '\x27' => layout.readQuotes sign
  | _ => malformed

/-- Reads the next part of a document at a settled place. -/
def readPart (layout : Layout) : Except Fault Layout :=
  match layout.cursor.rest with
  | [] => pure layout
  | c :: cs =>
    if c = '%' && layout.cursor.column = 0 then layout.readDirectiveLine
    else if layout.cursor.atMarker then layout.readMarker
    else if startsPlain layout.inBrackets (c :: cs) then layout.readWord
    else layout.readSign c

/-- Reads the next part, or the end of the text, after the gap before it. -/
def advance (layout : Layout) : Except Fault Layout := do
  let layout ← layout.settle
  if layout.cursor.rest.isEmpty then layout.closeAll.dropKey else layout.readPart

/-- The number of the tokens that are certain: those before the first place from which a key may
still reach. -/
def certain (layout : Layout) : Nat :=
  let places := layout.keys.filter (·.reaches layout.cursor)
  places.foldl (fun count place => min count place.before) layout.size

/-- Reads all parts that follow, up to the first fault if there is one: the certain tokens and the
fault. -/
def readAll : Nat → Layout → List Token × Option Fault
  | 0, layout => (layout.tokens.reverse, some .malformedDocument)
  | fuel + 1, layout =>
    match layout.advance with
    | .error fault => (layout.tokens.reverse.take layout.certain, some fault)
    | .ok next =>
      if layout.cursor.skipGap.rest.isEmpty then (next.tokens.reverse, none)
      else readAll fuel next

end Layout

/-- The tokens of a text up to the first fault, and the fault. -/
def tokensOf (cs : List Char) : List Token × Option Fault :=
  Layout.readAll (cs.length + 1) (.start cs)

end Polyphony.Yaml
