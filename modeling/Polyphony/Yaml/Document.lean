import Polyphony.Yaml.Value

/-!
# Documents

Reading a text as one document. Directives and three hyphens may stand before the document, three
points after it. Only a document that three hyphens start may be empty, and a text without any
document; both stand for nothing. All of a text is read before any of it is given a value. The
command line reads its configuration file so; configurations and the demo take any other reader.
-/

namespace Polyphony.Yaml

/-- A character that may stand in a document. -/
def isAllowed (c : Char) : Bool :=
  let code := c.toNat
  c = '\t' || c = '\n' || c = '\r' || (0x20 ≤ code && code ≤ 0x7E) || code = 0x85 ||
    (0xA0 ≤ code && code ≤ 0xD7FF) || (0xE000 ≤ code && code ≤ 0xFFFD) || 0x10000 ≤ code

/-- Makes every common line end the same character. -/
def normalizeBreaks : List Char → List Char
  | '\r' :: '\n' :: cs => '\n' :: normalizeBreaks cs
  | '\r' :: cs => '\n' :: normalizeBreaks cs
  | '\u0085' :: cs => '\n' :: normalizeBreaks cs
  | c :: cs => c :: normalizeBreaks cs
  | [] => []

/-- Drops a byte order mark. -/
def dropMark : List Char → List Char
  | '\ufeff' :: cs => cs
  | cs => cs

namespace Reading

/-- Reads the directives before a document, given whether there was a version and the handles of
tags that they gave a meaning. The version must begin with one; nothing is said twice. -/
def directives : Nat → Bool → List (String × String) → Reading (List (String × String))
  | 0, _, _ => malformed
  | fuel + 1, versioned, handles => do
    match ← peek with
    | some (.directive .other) => do
      skip
      directives fuel versioned handles
    | some (.directive (.version number)) => do
      if versioned || number ≠ 1 then malformed
      skip
      directives fuel true handles
    | some (.directive (.handle name stem)) => do
      if (handles.lookup name).isSome then malformed
      skip
      directives fuel versioned ((name, stem) :: handles)
    | _ => return handles

/-- A document that a marker starts is empty before the end, a marker or a directive. -/
def isEmpty (next : Option Token) : Bool :=
  match next with
  | none | some .startDocument | some .endDocument | some (.directive _) => true
  | _ => false

/-- The tags' handles that need no directive. -/
def standardHandles : List (String × String) := [("!", "!"), ("!!", standardStem)]

/-- Reads the node of a document. -/
def root (fuel : Nat) : Reading Node := do
  match ← peek with
  | none => return .nothing
  | some .startDocument | some (.directive _) => do
    let handles ← directives fuel false []
    modify fun source => { source with handles := handles ++ source.handles }
    expect .startDocument
    if isEmpty (← peek) then return .nothing else node fuel false
  | _ => node fuel false

/-- Reads the end of the text. Markers of a document's end may stand before it. -/
def finish : Reading Unit := do
  modify fun source => { source with tokens := source.tokens.dropWhile (· = .endDocument) }
  if (← peek).isSome then malformed

/-- Reads the only document. -/
def document (fuel : Nat) : Reading Node := do
  let node ← root fuel
  finish
  return node

end Reading

/-- The node of the document that a text holds. -/
def nodeOf (cs : List Char) : Except Fault Node := do
  let (tokens, fault) := tokensOf cs
  let source : Source := ⟨tokens, fault, Reading.standardHandles, []⟩
  return (← (Reading.document (4 * tokens.length + 8)).run source).1

/-- The value of the document that a text holds. -/
def read (text : String) : Except Fault Datum := do
  if text.toList.all isAllowed then
    (← nodeOf (normalizeBreaks (dropMark text.toList))).datum.outcome
  else malformed

example : (read "a: [1, b]\nc:\n  d: no # e\n").toOption = some (.mapping [
    (.text "a", .list [.int 1, .text "b"]),
    (.text "c", .mapping [(.text "d", .bool false)])]) := by decide +kernel

example : (read "a: b: c\n").toOption = none := by decide +kernel

example : (read "---\n...\n").toOption = some .null := by decide +kernel

example : (read "...\n").toOption = none := by decide +kernel

end Polyphony.Yaml
