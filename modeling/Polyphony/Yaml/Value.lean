import Polyphony.Yaml.Node
import Polyphony.Yaml.Scalar
import Polyphony.Yaml.Staged

/-!
# Values of nodes

What a node stands for. Keys are scalars. A mapping takes the entries of the mappings that it
merges before its own, so its own win. What is inside a list or mapping is built one stage after
what stands beside it.
-/

namespace Polyphony.Yaml

/-- A list of pairs, as it is shown. -/
def pairsImage (pairs : List (Datum × Datum)) : String :=
  Text.bracketed (pairs.map fun (a, b) => "(" ++ a.shown ++ ", " ++ b.shown ++ ")")

/-- A set, as it is shown. -/
def setImage (keys : List Scalar) : String :=
  if keys.isEmpty then "set()"
  else "\x7b" ++ ", ".intercalate (keys.map Scalar.shown) ++ "\x7d"

/-- A list or mapping inside of itself, as it is shown there. -/
def loopImage? : Kind → Bool → Option Datum
  | .list, true | .pairs, true => some (.other "list" "[...]" false)
  | .mapping, false => some (.other "dict" "\x7b...\x7d" false)
  | .set, false => some (.other "set" "set(...)" false)
  | _, _ => none

/-- The entries of a mapping, where a later one wins. -/
def mergeEntries (entries : List (Scalar × Datum)) : List (Scalar × Datum) :=
  entries.foldl (fun found (key, value) => Datum.insertEntry found key value) []

/-- An entry of a mapping that is being built. -/
abbrev Entry := Staged (Scalar × Datum)

namespace Node

/-- The kind of a node. -/
def kind : Node → Kind
  | text k _ | list k _ | mapping k _ | loop k _ => k

mutual

/-- The text of a node. A mapping has that of its default value. -/
def text? : Node → Option String
  | text _ s => some s
  | list _ _ | loop _ _ => none
  | mapping _ entries => defaultText? entries

/-- The text of the default value among some entries. -/
def defaultText? : List (Node × Node) → Option String
  | [] => none
  | (key, value) :: entries => if key.kind = .default then value.text? else defaultText? entries

end

/-- The scalar that a node stands for. -/
def scalar (node : Node) : Except Fault Scalar :=
  match node.text? with
  | some s => node.kind.scalar s
  | none => malformed

/-- The scalar that a key stands for. The mark of a default value stands for itself. -/
def keyScalar (node : Node) : Except Fault Scalar :=
  match node.kind, node.text? with
  | .default, some s => pure (.text s)
  | _, _ => node.scalar

/-- The kind is one of those that have parts. -/
def hasParts (kind : Kind) : Bool :=
  kind ∈ [.list, .mapping, .pairs, .set]

/-- What a node stands for whose kind does not fit it, or that is a scalar. -/
def atom (node : Node) : Staged Datum :=
  if hasParts node.kind then Staged.later (Staged.now malformed)
  else Staged.now (Datum.scalar <$> node.scalar)

/-- The entries of a mapping: those merged into it, and its own. -/
def built (split : Except Fault (List Entry × List Entry)) :
    Staged (List (Scalar × Datum)) :=
  match split with
  | .ok (merged, own) => (Staged.all (merged ++ own)).map mergeEntries
  | .error fault => Staged.now (throw fault)

mutual

/-- The value of a node. -/
def datum : Node → Staged Datum
  | list .list items => Staged.later ((Staged.all (data items)).map Datum.list)
  | list .pairs items =>
    Staged.later ((Staged.all (pairs items)).map fun found =>
      .other "list" (pairsImage found) found.isEmpty)
  | mapping .mapping entries => Staged.later ((built (split entries)).map Datum.mapping)
  | mapping .set entries =>
    Staged.later ((built (split entries)).map fun found =>
      .other "set" (setImage (found.map (·.1))) found.isEmpty)
  | loop kind isList =>
    match loopImage? kind isList with
    | some image => pure image
    | none => atom (loop kind isList)
  | node => atom node

/-- The values of some items. -/
def data : List Node → List (Staged Datum)
  | [] => []
  | item :: items => item.datum :: data items

/-- The pairs of some items, each of which must be a mapping with one entry. -/
def pairs : List Node → List (Staged (Datum × Datum))
  | [] => []
  | mapping _ [(a, b)] :: items => Staged.both a.datum b.datum :: pairs items
  | _ :: items => Staged.now malformed :: pairs items

/-- The entries that some entries of a mapping merge into it, and those that are its own. -/
def split : List (Node × Node) → Except Fault (List Entry × List Entry)
  | [] => pure ([], [])
  | (key, value) :: entries =>
    if key.kind = .merge then do
      let found ← value.merged
      let (merged, own) ← split entries
      return (found ++ merged, own)
    else do
      let (merged, own) ← split entries
      return (merged, Staged.both (Staged.now key.keyScalar) value.datum :: own)

/-- The entries that a node merges into a mapping: those of a mapping, or of a list of mappings, the
last of which comes first. A loop adds none. -/
def merged : Node → Except Fault (List Entry)
  | mapping _ entries => do
    let (merged, own) ← split entries
    return merged ++ own
  | list _ items => mergedItems items
  | loop _ _ => pure []
  | text _ _ => malformed

/-- The entries that a list of mappings merges. -/
def mergedItems : List Node → Except Fault (List Entry)
  | [] => pure []
  | mapping _ entries :: items => do
    let (merged, own) ← split entries
    return (← mergedItems items) ++ merged ++ own
  | loop _ isList :: items => if isList then malformed else mergedItems items
  | _ :: _ => malformed

end

end Node

end Polyphony.Yaml
