import Polyphony.Control

/-!
# Pieces of music

A piece is a tree. Its leaves are notes and rests; inner nodes play two pieces one after the other
or together, or put a piece under a control.
-/

namespace Polyphony

/-- A leaf of a piece. -/
inductive Primitive (α : Type) where
  /-- A note of a given length. -/
  | note (length : Ratio) (payload : α)
  /-- A silence of a given length. -/
  | rest (length : Ratio)
deriving DecidableEq

/-- A piece of music whose notes carry payloads of one type. -/
inductive Music (α : Type) where
  /-- A note or a rest. -/
  | prim (primitive : Primitive α)
  /-- One piece after another. -/
  | seq (left right : Music α)
  /-- Two pieces together. -/
  | par (left right : Music α)
  /-- A piece under a control. -/
  | modify (control : Control) (body : Music α)
  /-- A number in the place of a piece. -/
  | stray (number : Int)
deriving DecidableEq

namespace Primitive

/-- The length of a leaf. -/
def length {α : Type} : Primitive α → Ratio
  | note length _ => length
  | rest length => length

/-- Changes the payload of a note. -/
def map {α β : Type} (f : α → β) : Primitive α → Primitive β
  | note length payload => note length (f payload)
  | rest length => rest length

end Primitive

namespace Music

variable {α : Type}

/-- The number of nodes of a piece. -/
def nodes : Music α → Nat
  | prim _ => 1
  | seq left right => 1 + left.nodes + right.nodes
  | par left right => 1 + left.nodes + right.nodes
  | modify _ body => 1 + body.nodes
  | stray _ => 1

/-- Nothing, which takes no time. -/
def unit : Music α := prim (.rest .zero)

/-- Pieces one after another, starting from nothing. -/
def line (pieces : List (Music α)) : Music α :=
  pieces.foldl seq unit

/-- Pieces together, starting from nothing. -/
def chord (pieces : List (Music α)) : Music α :=
  pieces.foldl par unit

end Music

end Polyphony
