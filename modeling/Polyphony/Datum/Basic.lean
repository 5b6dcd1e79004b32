import Polyphony.Binary64.Arithmetic
import Polyphony.Binary64.Decimal
import Polyphony.Moment
import Polyphony.Number.Basic
import Polyphony.Text.Quoted

/-!
# Data

The values that a configuration document can hold: scalars, lists, and mappings with scalar keys.
A datum is displayed bare, or shown as it appears inside another value or in a message.
-/

namespace Polyphony

/-- A value without parts. -/
inductive Scalar where
  | null
  | bool (b : Bool)
  | int (k : Int)
  | float (x : Binary64)
  | text (s : String)
  | moment (m : Moment)
  | bytes (data : List UInt8)
deriving DecidableEq, Inhabited

/-- A value of a configuration document. -/
inductive Datum where
  /-- A value without parts. -/
  | scalar (s : Scalar)
  /-- A list. -/
  | list (items : List Datum)
  /-- A mapping, with its entries in order. -/
  | mapping (entries : List (Scalar × Datum))
  /-- A value that can only be looked at: its type, how it is shown, and whether it is empty. -/
  | other (type image : String) (empty : Bool)
deriving Inhabited

namespace Scalar

/-- The name of a scalar's type. -/
def typeName : Scalar → String
  | null => "NoneType"
  | bool _ => "bool"
  | int _ => "int"
  | float _ => "float"
  | text _ => "str"
  | moment m => m.typeName
  | bytes _ => "bytes"

/-- A scalar as it stands inside another value: texts are quoted. -/
def shown : Scalar → String
  | null => "None"
  | bool b => if b then "True" else "False"
  | int k => toString k
  | float x => x.shown
  | text s => Text.quoted s
  | moment m => m.shown
  | bytes data => Text.quotedBytes data

/-- A scalar on its own: texts are bare, and moments are as they are written. -/
def display : Scalar → String
  | text s => s
  | moment m => m.display
  | s => s.shown

/-- The number that a scalar is. Truth values count as zero and one. -/
def number? : Scalar → Option Number
  | bool b => some (.integer (if b then 1 else 0))
  | int k => some (.integer k)
  | float x => some (.double x)
  | _ => none

/-- Equality of scalars: numbers by value, whatever their type, moments by the instant, and all else
as it is. -/
def eq : Scalar → Scalar → Bool
  | moment m, moment n => m.eq n
  | a, b =>
    match a.number?, b.number? with
    | some x, some y => x.eq y
    | none, none => a = b
    | _, _ => false

/-- The scalars are one key of a mapping: they are equal, or both are the one value that stands for
what is not a number. -/
def sameKey (a b : Scalar) : Bool :=
  a.eq b || (a = b && a = .float .undefinedNumber)

end Scalar

namespace Datum

mutual

/-- Equality of data, decided part by part. -/
def decEq : (a b : Datum) → Decidable (a = b)
  | scalar a, scalar b => decidable_of_iff (a = b) (by simp)
  | list as, list bs =>
    match decEqItems as bs with
    | isTrue h => isTrue (by rw [h])
    | isFalse h => isFalse (by simpa using h)
  | mapping as, mapping bs =>
    match decEqEntries as bs with
    | isTrue h => isTrue (by rw [h])
    | isFalse h => isFalse (by simpa using h)
  | scalar _, list _ | scalar _, mapping _ | list _, scalar _ | list _, mapping _
  | mapping _, scalar _ | mapping _, list _ => isFalse (by simp)
  | other type image empty, other type' image' empty' =>
    decidable_of_iff (type = type' ∧ image = image' ∧ empty = empty') (by simp)
  | other .., scalar _ | other .., list _ | other .., mapping _ => isFalse (by simp)
  | scalar _, other .. | list _, other .. | mapping _, other .. => isFalse (by simp)

/-- Equality of items, decided one by one. -/
def decEqItems : (as bs : List Datum) → Decidable (as = bs)
  | [], [] => isTrue rfl
  | a :: as, b :: bs =>
    match decEq a b, decEqItems as bs with
    | isTrue h, isTrue k => isTrue (by rw [h, k])
    | isFalse h, _ => isFalse fun e => h (List.cons.inj e).1
    | _, isFalse k => isFalse fun e => k (List.cons.inj e).2
  | [], _ :: _ | _ :: _, [] => isFalse (by simp)

/-- Equality of entries, decided one by one. -/
def decEqEntries : (as bs : List (Scalar × Datum)) → Decidable (as = bs)
  | [], [] => isTrue rfl
  | (key, a) :: as, (key', b) :: bs =>
    match decidable_of_iff (key = key') Iff.rfl, decEq a b, decEqEntries as bs with
    | isTrue h, isTrue k, isTrue l => isTrue (by rw [h, k, l])
    | isFalse h, _, _ => isFalse fun e => h (Prod.mk.inj (List.cons.inj e).1).1
    | _, isFalse k, _ => isFalse fun e => k (Prod.mk.inj (List.cons.inj e).1).2
    | _, _, isFalse l => isFalse fun e => l (List.cons.inj e).2
  | [], _ :: _ | _ :: _, [] => isFalse (by simp)

end

instance : DecidableEq Datum := decEq

/-- The absent value. -/
@[match_pattern]
abbrev null : Datum := .scalar .null

/-- A truth value. -/
@[match_pattern]
abbrev bool (b : Bool) : Datum := .scalar (.bool b)

/-- An integer. -/
@[match_pattern]
abbrev int (k : Int) : Datum := .scalar (.int k)

/-- A double. -/
@[match_pattern]
abbrev float (x : Binary64) : Datum := .scalar (.float x)

/-- A text. -/
@[match_pattern]
abbrev text (s : String) : Datum := .scalar (.text s)

/-- The name of a datum's type. -/
def typeName : Datum → String
  | scalar s => s.typeName
  | list _ => "list"
  | mapping _ => "dict"
  | other type _ _ => type

/-- The last part of that name. -/
def shortTypeName : Datum → String
  | scalar (.moment m) => m.shortTypeName
  | datum => datum.typeName

mutual

/-- A datum as it stands inside another value. -/
def shown : Datum → String
  | scalar s => s.shown
  | list items => Text.bracketed (shownItems items)
  | mapping entries => "\x7b" ++ ", ".intercalate (shownEntries entries) ++ "\x7d"
  | other _ image _ => image

/-- Each item of a list as it stands there. -/
def shownItems : List Datum → List String
  | [] => []
  | item :: items => item.shown :: shownItems items

/-- Each entry of a mapping: its key, a colon and its value. -/
def shownEntries : List (Scalar × Datum) → List String
  | [] => []
  | (key, item) :: entries => (key.shown ++ ": " ++ item.shown) :: shownEntries entries

end

/-- A datum on its own. -/
def display : Datum → String
  | scalar s => s.display
  | d => d.shown

/-- The datum counts as absent: nothing, false, zero or empty. -/
def isVoid : Datum → Bool
  | null => true
  | bool b => !b
  | int k => k = 0
  | float x => x.isZero
  | text s => s.isEmpty
  | scalar (.moment _) => false
  | scalar (.bytes data) => data.isEmpty
  | list items => items.isEmpty
  | mapping entries => entries.isEmpty
  | other _ _ empty => empty

/-- The value under a key of a list of entries. -/
def lookup? (entries : List (Scalar × Datum)) (key : Scalar) : Option Datum :=
  (entries.find? fun entry => entry.1.sameKey key).map (·.2)

/-- Sets the value of a key. A key that is present keeps its place and its spelling; a new one goes
to the end. -/
def insertEntry (entries : List (Scalar × Datum)) (key : Scalar) (value : Datum) :
    List (Scalar × Datum) :=
  match entries with
  | [] => [(key, value)]
  | entry :: rest =>
    if entry.1.sameKey key then (entry.1, value) :: rest else entry :: insertEntry rest key value

/-- The number that a datum is. -/
def number? : Datum → Option Number
  | scalar s => s.number?
  | _ => none

mutual

/-- Equality of data: scalars by value, lists item by item, mappings key by key in any order. -/
def eq : Datum → Datum → Bool
  | scalar a, scalar b => a.eq b
  | list as, list bs => eqItems as bs
  | mapping as, mapping bs => as.length = bs.length && eqEntries as bs
  | other type image _, other type' image' _ => type = type' && image = image'
  | _, _ => false

/-- Equality of lists, item by item. -/
def eqItems : List Datum → List Datum → Bool
  | [], [] => true
  | a :: as, b :: bs => a.eq b && eqItems as bs
  | _, _ => false

/-- Every entry has an equal one in another mapping. -/
def eqEntries : List (Scalar × Datum) → List (Scalar × Datum) → Bool
  | [], _ => true
  | (key, a) :: as, bs =>
    (match lookup? bs key with
      | some b => a.eq b
      | none => false) && eqEntries as bs

end

end Datum

end Polyphony
