import Polyphony.Yaml.Literal

/-!
# Labels and directives

Names that mark values for later use, tags that tell their types, and the directives before a
document, which give its version and the meaning of its tags.
-/

namespace Polyphony.Yaml

/-- A character of a name. -/
def isNameChar (c : Char) : Bool := c.isAlphanum || c = '-' || c = '_'

/-- Reads a name. -/
def readName (cursor : Cursor) : Except Fault (String × Cursor) :=
  match cursor.span isNameChar with
  | ([], _) => malformed
  | (name, next) => pure (String.ofList name, next)

/-- Reads the name of a mark from the place after its sign. -/
def readMark (cursor : Cursor) : Except Fault (String × Cursor) := do
  let (name, next) ← readName cursor
  if startsBlank next.rest || next.rest.head?.any "?:,]\x7d%@`".toList.contains then
    return (name, next)
  else malformed

/-- A character of a tag. -/
def isTagChar (c : Char) : Bool := isNameChar c || ";/?:@&=+$,.!~*\x27()[]%".toList.contains c

/-- The bytes that signs of percentage with two hexadecimal digits stand for, at the start of a
text, and what follows them. -/
def percentBytes : List Char → Except Fault (List UInt8 × List Char)
  | '%' :: c :: d :: cs =>
    match Text.digitIn? 16 c, Text.digitIn? 16 d with
    | some high, some low => do
      let (bytes, rest) ← percentBytes cs
      return (.ofNat (16 * high + low) :: bytes, rest)
    | _, _ => malformed
  | '%' :: _ => malformed
  | cs => pure ([], cs)

/-- Puts characters in place of the signs of percentage in a text. -/
def decodePercents : Nat → List Char → Except Fault (List Char)
  | 0, _ => pure []
  | _, [] => pure []
  | fuel + 1, '%' :: cs => do
    let (bytes, rest) ← percentBytes ('%' :: cs)
    match String.fromUTF8? ⟨bytes.toArray⟩ with
    | some text => return text.toList ++ (← decodePercents fuel rest)
    | none => malformed
  | fuel + 1, c :: cs => do return c :: (← decodePercents fuel cs)

/-- Reads the text of a tag. -/
def readTagText (cursor : Cursor) : Except Fault (String × Cursor) := do
  let (text, next) := cursor.span isTagChar
  if text.isEmpty then malformed
  return (String.ofList (← decodePercents text.length text), next)

/-- Reads the handle of a tag: an exclamation mark, or a name between two. -/
def readHandle (cursor : Cursor) : Except Fault (String × Cursor) :=
  match cursor.rest with
  | '!' :: ' ' :: _ => pure ("!", cursor.next)
  | '!' :: cs =>
    let name := cs.takeWhile isNameChar
    match cs.drop name.length with
    | '!' :: _ => pure ("!" ++ String.ofList name ++ "!", cursor.forward (name.length + 2))
    | _ => malformed
  | _ => malformed

/-- The place after a tag or directive, which a blank other than a tab must follow. -/
def endLabel (cursor : Cursor) : Except Fault Cursor :=
  if startsGap cursor.rest then pure cursor else malformed

/-- Reads a tag: its handle, if it has one, and its text. -/
def readTag (cursor : Cursor) : Except Fault (Option String × String × Cursor) := do
  let here := cursor.next
  match here.rest with
  | '<' :: _ =>
    let (text, next) ← readTagText here.next
    if next.rest.head? ≠ some '>' then malformed
    return (none, text, ← endLabel next.next)
  | cs =>
    if startsBlank cs then return (none, "!", ← endLabel here)
    let (handle, start) ←
      if (cs.takeWhile fun c => c ≠ ' ' && !isBreak c).contains '!' then readHandle cursor
      else pure ("!", here)
    let (text, next) ← readTagText start
    return (some handle, text, ← endLabel next)

/-- A directive before a document. -/
inductive Directive where
  /-- The version of the format, by the number before its point. -/
  | version (number : Nat)
  /-- A handle of tags, and what tags with it begin with. -/
  | handle (name stem : String)
  /-- A directive that says nothing to this reader. -/
  | other
deriving DecidableEq

/-- Reads a number in decimal digits. -/
def readNumber (cursor : Cursor) : Except Fault (Nat × Cursor) :=
  match cursor.span Char.isDigit with
  | ([], _) => malformed
  | (digits, next) => pure (Text.valueIn 10 digits, next)

/-- Reads a version: two numbers with a point between them. -/
def readVersion (cursor : Cursor) : Except Fault (Directive × Cursor) := do
  let (number, point) ← readNumber cursor
  if point.rest.head? ≠ some '.' then malformed
  let (_, next) ← readNumber point.next
  return (.version number, ← endLabel next)

/-- Reads the meaning of a handle: the handle and the text that it stands for. -/
def readMeaning (cursor : Cursor) : Except Fault (Directive × Cursor) := do
  let (name, next) ← readHandle cursor
  if next.rest.head? ≠ some ' ' then malformed
  let (stem, last) ← readTagText next.skipSpaces
  return (.handle name stem, ← endLabel last)

/-- Reads a directive from the place after its sign of percentage to the end of its line. -/
def readDirective (cursor : Cursor) : Except Fault (Directive × Cursor) := do
  let (name, next) ← readName cursor
  let here ← endLabel next
  let (directive, last) ←
    if name = "YAML" then readVersion here.skipSpaces
    else if name = "TAG" then readMeaning here.skipSpaces
    else pure (.other, (here.span (!isBreak ·)).2)
  return (directive, ← endLine last)

end Polyphony.Yaml
