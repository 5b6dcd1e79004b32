import Mathlib.Algebra.BigOperators.Group.List.Basic
import Mathlib.Data.List.Nodup
import Polyphony.Music.Basic
import Polyphony.Proofs.Music.Control

/-!
# Notes in their places

The notes of a piece, each with the way down to it. A way passes lines and chords on one of their
sides and goes below controls; what its controls come to is a product of speeds, a sum of shifts and
the innermost channel. No two notes of a piece have the same way.
-/

namespace Polyphony

variable {α : Type}

/-- A node above a leaf, with the side on which it has the leaf. -/
inductive Ancestor (α : Type) where
  /-- A line, on the left. -/
  | seqLeft
  /-- A line, on the right, after the left piece. -/
  | seqRight (left : Music α)
  /-- Two pieces together, on the left. -/
  | parLeft
  /-- Two pieces together, on the right. -/
  | parRight
  /-- A control. -/
  | under (control : Control)

namespace Ancestor

/-- The factor by which a node speeds up what is below it. -/
def speed : Ancestor α → Rat
  | under control => control.speed
  | _ => 1

/-- The semitones by which a node shifts what is below it. -/
def shift : Ancestor α → Int
  | under control => control.shift
  | _ => 0

/-- The channel that a node sets for what is below it. -/
def channel? : Ancestor α → Option Channel
  | under control => control.channel?
  | _ => none

end Ancestor

/-- A note in its place. -/
structure Leaf (α : Type) where
  /-- The nodes above the note, the outermost first. -/
  path : List (Ancestor α)
  /-- The length of the note. -/
  length : Ratio
  /-- The payload of the note. -/
  payload : α

namespace Leaf

/-- The note one node further down. -/
def below (ancestor : Ancestor α) (leaf : Leaf α) : Leaf α :=
  { leaf with path := ancestor :: leaf.path }

/-- The product of the tempo ratios on the path. -/
def speed (leaf : Leaf α) : Rat := (leaf.path.map Ancestor.speed).prod

/-- The sum of the transpositions on the path. -/
def shift (leaf : Leaf α) : Int := (leaf.path.map Ancestor.shift).sum

/-- The innermost channel on the path. -/
def channel? (leaf : Leaf α) : Option Channel := leaf.path.reverse.findSome? Ancestor.channel?

/-- A phrase is on the path. -/
def Phrased (leaf : Leaf α) : Prop := ∃ attributes, .under (.phrase attributes) ∈ leaf.path

section Below

variable (ancestor : Ancestor α) (leaf : Leaf α)

@[simp] theorem below_path : (leaf.below ancestor).path = ancestor :: leaf.path := rfl

@[simp] theorem below_length : (leaf.below ancestor).length = leaf.length := rfl

@[simp] theorem below_payload : (leaf.below ancestor).payload = leaf.payload := rfl

@[simp] theorem below_speed : (leaf.below ancestor).speed = ancestor.speed * leaf.speed := by
  simp [speed]

@[simp] theorem below_shift : (leaf.below ancestor).shift = ancestor.shift + leaf.shift := by
  simp [shift]

/-- The node above sets the channel where none below it does. -/
@[simp] theorem below_channel? :
    (leaf.below ancestor).channel? = leaf.channel?.or ancestor.channel? := by
  simp [channel?, List.findSome?_append]

end Below

/-- A note in a phrase stays in it one node further down. -/
theorem Phrased.below {leaf : Leaf α} (hphrased : leaf.Phrased) (ancestor : Ancestor α) :
    (leaf.below ancestor).Phrased := by
  obtain ⟨attributes, hmem⟩ := hphrased
  exact ⟨attributes, List.mem_cons_of_mem _ hmem⟩

theorem phrased_below_phrase (attributes : List PhraseAttribute) (leaf : Leaf α) :
    (leaf.below (.under (.phrase attributes))).Phrased := ⟨attributes, List.mem_cons_self⟩

end Leaf

namespace Music

/-- The notes of a piece in their places, from left to right. -/
def leaves : Music α → List (Leaf α)
  | prim (.note length payload) => [⟨[], length, payload⟩]
  | prim (.rest _) => []
  | seq left right =>
    left.leaves.map (Leaf.below .seqLeft) ++ right.leaves.map (Leaf.below (.seqRight left))
  | par left right =>
    left.leaves.map (Leaf.below .parLeft) ++ right.leaves.map (Leaf.below .parRight)
  | modify control body => body.leaves.map (Leaf.below (.under control))
  | stray _ => []

/-- Paths that differ still differ below one node. -/
theorem nodup_paths_below {leaves : List (Leaf α)} (hnodup : (leaves.map Leaf.path).Nodup)
    (ancestor : Ancestor α) : ((leaves.map (Leaf.below ancestor)).map Leaf.path).Nodup := by
  have hpaths : (leaves.map (Leaf.below ancestor)).map Leaf.path =
      (leaves.map Leaf.path).map (List.cons ancestor) := by
    rw [List.map_map, List.map_map]
    rfl
  rw [hpaths]
  exact hnodup.map List.cons_injective

/-- Paths below different nodes differ. -/
theorem nodup_paths_append {left right : List (Leaf α)} {l r : Ancestor α} (hne : l ≠ r)
    (hleft : (left.map Leaf.path).Nodup) (hright : (right.map Leaf.path).Nodup) :
    ((left.map (Leaf.below l) ++ right.map (Leaf.below r)).map Leaf.path).Nodup := by
  rw [List.map_append]
  refine (nodup_paths_below hleft l).append (nodup_paths_below hright r) ?_
  intro path hl hr
  simp only [List.map_map, List.mem_map, Function.comp_apply, Leaf.below_path] at hl hr
  obtain ⟨a, _, rfl⟩ := hl
  obtain ⟨b, _, hpath⟩ := hr
  exact hne (List.cons.inj hpath).1.symm

/-- No two notes of a piece have the same path. -/
theorem nodup_paths (piece : Music α) : (piece.leaves.map Leaf.path).Nodup := by
  induction piece with
  | prim primitive =>
    cases primitive with
    | note length payload => exact List.nodup_singleton _
    | rest length => exact List.nodup_nil
  | seq left right ihleft ihright => exact nodup_paths_append nofun ihleft ihright
  | par left right ihleft ihright => exact nodup_paths_append nofun ihleft ihright
  | modify control body ih => exact nodup_paths_below ih _
  | stray number => exact List.nodup_nil

end Music

end Polyphony
