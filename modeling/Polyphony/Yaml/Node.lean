import Polyphony.Yaml.Plain
import Polyphony.Yaml.Token

/-!
# Nodes of a document

The tree that the tokens of a document describe: texts, lists and mappings, each with its kind. A
reference stands for the node that bears its mark; inside of that node it closes a loop. Each reader
takes an amount of fuel that bounds its depth.
-/

namespace Polyphony.Yaml

/-- A part of a document that has a value. -/
inductive Node where
  /-- A text. -/
  | text (kind : Kind) (s : String)
  /-- A list of items. -/
  | list (kind : Kind) (items : List Node)
  /-- A mapping with its entries in the order of the document. -/
  | mapping (kind : Kind) (entries : List (Node × Node))
  /-- A list or mapping inside of itself. -/
  | loop (kind : Kind) (isList : Bool)

/-- The node of nothing. -/
def Node.nothing : Node := .text .null ""

/-- What a tag says of a node's kind. -/
inductive Tag where
  /-- The text shows the kind as if it were plain. -/
  | shown
  /-- The kind. -/
  | kind (k : Kind)
deriving DecidableEq

/-- The tag with a name. An exclamation mark on its own leaves the kind to the text. -/
def Tag.ofName (name : String) : Tag :=
  if name = "!" then .shown else .kind (.ofTag name)

/-- The kind of a text, from its tag. Without one, a text that is not plain stands for itself. -/
def Tag.kindOfText (plain : Bool) (s : String) : Option Tag → Kind
  | some (.kind k) => k
  | some .shown => .ofPlain s
  | none => if plain then .ofPlain s else .text

/-- The kind of a list or mapping, from its tag. -/
def Tag.kindOr (standard : Kind) : Option Tag → Kind
  | some (.kind k) => k
  | _ => standard

/-- The state of reading a document. -/
structure Source where
  /-- The tokens that follow. -/
  tokens : List Token
  /-- The fault after them, if the text goes on. -/
  fault : Option Fault
  /-- The handles of tags, and what tags with them begin with. -/
  handles : List (String × String)
  /-- The marked nodes. -/
  marks : List (String × Node)

/-- Reading nodes from a document's tokens. -/
abbrev Reading := StateT Source (Except Fault)

namespace Reading

/-- The next token; none at the end of the text. -/
def peek : Reading (Option Token) := do
  let source ← get
  match source.tokens, source.fault with
  | token :: _, _ => return some token
  | [], some fault => throw fault
  | [], none => return none

/-- Passes over the next token. -/
def skip : Reading Unit :=
  modify fun source => { source with tokens := source.tokens.tail }

/-- Passes over a token that must be next. -/
def expect (token : Token) : Reading Unit := do
  if (← peek) = some token then skip else malformed

/-- Reads the name of a mark, if it is next. -/
def mark? : Reading (Option String) := do
  match ← peek with
  | some (.mark name) => do
    skip
    return some name
  | _ => return none

/-- Reads the name of a tag, if it is next. Its handle must be known. -/
def tagName? : Reading (Option String) := do
  match ← peek with
  | some (.tag none s) => do
    skip
    return some s
  | some (.tag (some handle) s) => do
    skip
    match (← get).handles.lookup handle with
    | some stem => return some (stem ++ s)
    | none => malformed
  | _ => return none

/-- Reads a mark and a tag in either order. -/
def labels : Reading (Option String × Option Tag) := do
  let first ← mark?
  let name ← tagName?
  let second ← if first.isSome then pure none else mark?
  return (first.or second, name.map .ofName)

/-- Marks a node, in place of any that had the mark. -/
def setMark (name : String) (node : Node) : Reading Unit :=
  modify fun source => { source with marks := (name, node) :: source.marks }

/-- The node that bears a mark. -/
def marked (name : String) : Reading Node := do
  match (← get).marks.lookup name with
  | some node => return node
  | none => malformed

/-- What a mark stands for inside of the node that it is set on, before the node is read. -/
def loopAt (hanging : Bool) (tag : Option Tag) : Option Token → Node
  | some .openList | some .startList => .loop (Tag.kindOr .list tag) true
  | some .item => if hanging then .loop (Tag.kindOr .list tag) true else .nothing
  | some .openMapping | some .startMapping => .loop (Tag.kindOr .mapping tag) false
  | _ => .nothing

/-- No node begins with these tokens, which end or separate the parts of lists and mappings. -/
def isBoundary (token : Token) : Bool :=
  token ∈ [.key, .value, .endBlock, .comma, .closeList, .closeMapping]

mutual

/-- Reads a node. A list may stand in the column of the key before it only where it is said so. No
two nodes have one mark. -/
def node : Nat → Bool → Reading Node
  | 0, _ => malformed
  | fuel + 1, hanging => do
    match ← peek with
    | some (.reference name) => do
      skip
      marked name
    | _ => do
      let (mark, tag) ← labels
      match mark with
      | none => content fuel hanging tag.isSome tag
      | some name => do
        if ((← get).marks.lookup name).isSome then malformed
        setMark name (loopAt hanging tag (← peek))
        let found ← content fuel hanging true tag
        setMark name found
        return found

/-- Reads a node after its mark and tag. Nothing may stand there only if it has one of them. -/
def content : Nat → Bool → Bool → Option Tag → Reading Node
  | 0, _, _, _ => malformed
  | fuel + 1, hanging, labelled, tag => do
    match ← peek with
    | some (.text plain s) => do
      skip
      return .text (Tag.kindOfText plain s tag) s
    | some .openList => do
      skip
      return .list (Tag.kindOr .list tag) ((← parts fuel .closeList []).map fun part =>
        match part with
        | (key, some value) => .mapping .mapping [(key, value)]
        | (item, none) => item)
    | some .openMapping => do
      skip
      return .mapping (Tag.kindOr .mapping tag) ((← parts fuel .closeMapping []).map fun part =>
        (part.1, part.2.getD .nothing))
    | some .startList => do
      skip
      let items ← items fuel []
      expect .endBlock
      return .list (Tag.kindOr .list tag) items
    | some .startMapping => do
      skip
      let entries ← entries fuel []
      expect .endBlock
      return .mapping (Tag.kindOr .mapping tag) entries
    | next =>
      if hanging && next = some .item then
        return .list (Tag.kindOr .list tag) (← items fuel [])
      else if labelled then return .text (Tag.kindOfText true "" tag) ""
      else malformed

/-- Reads a node, or nothing at a token that no node begins with. -/
def optional : Nat → Bool → Reading Node
  | 0, _ => malformed
  | fuel + 1, hanging => do
    if (← peek).any isBoundary then return .nothing else node fuel hanging

/-- Reads a key and its value from the place after the token of the key. -/
def entry : Nat → Bool → Reading (Node × Node)
  | 0, _ => malformed
  | fuel + 1, hanging => do
    let key ← optional fuel hanging
    if (← peek) = some .value then do
      skip
      return (key, ← optional fuel hanging)
    else return (key, .nothing)

/-- Reads the parts of a list or mapping in brackets up to the token that closes it: nodes, and keys
with their values. Those before them are given in reverse. -/
def parts : Nat → Token → List (Node × Option Node) → Reading (List (Node × Option Node))
  | 0, _, _ => malformed
  | fuel + 1, close, before => do
    if (← peek) = some close then do
      skip
      return before.reverse
    else do
      let part ←
        if (← peek) = some .key then do
          skip
          let (key, value) ← entry fuel false
          pure (key, some value)
        else do pure (← node fuel false, none)
      if (← peek) ≠ some close then expect .comma
      parts fuel close (part :: before)

/-- Reads the items of a list laid out by indentation, given those before them in reverse. -/
def items : Nat → List Node → Reading (List Node)
  | 0, _ => malformed
  | fuel + 1, before => do
    if (← peek) = some .item then do
      skip
      let item ← if (← peek) = some .item then pure .nothing else optional fuel false
      items fuel (item :: before)
    else return before.reverse

/-- Reads the entries of a mapping laid out by indentation, given those before them in reverse. -/
def entries : Nat → List (Node × Node) → Reading (List (Node × Node))
  | 0, _ => malformed
  | fuel + 1, before => do
    if (← peek) = some .key then do
      skip
      let found ← entry fuel true
      entries fuel (found :: before)
    else return before.reverse

end

end Reading

end Polyphony.Yaml
