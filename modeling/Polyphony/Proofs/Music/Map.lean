import Polyphony.Proofs.Music.Fold
import Polyphony.Proofs.Music.Leaves

/-!
# Changed payloads

Changing the payloads of a piece keeps its tree, with every length and every control. Changes made
one after the other are one change, and a fold of the changed piece is a fold of the piece itself
that changes each payload when it comes to it.
-/

namespace Polyphony

variable {α β γ : Type}

namespace Primitive

@[simp] theorem map_id (primitive : Primitive α) : primitive.map id = primitive := by
  cases primitive <;> rfl

@[simp] theorem map_map (f : β → γ) (g : α → β) (primitive : Primitive α) :
    (primitive.map g).map f = primitive.map (f ∘ g) := by
  cases primitive <;> rfl

@[simp] theorem length_map (f : α → β) (primitive : Primitive α) :
    (primitive.map f).length = primitive.length := by
  cases primitive <;> rfl

end Primitive

namespace Music

/-- The first number in the place of a piece, from the left. -/
def stray? : Music α → Option Int
  | prim _ => none
  | seq left right => left.stray?.or right.stray?
  | par left right => left.stray?.or right.stray?
  | modify _ body => body.stray?
  | stray number => some number

/-- No number stands in the place of a piece. -/
abbrev Whole (piece : Music α) : Prop := piece.stray? = none

/-- The piece with other payloads. -/
def mapped (f : α → β) : Music α → Music β
  | prim primitive => prim (primitive.map f)
  | seq left right => seq (left.mapped f) (right.mapped f)
  | par left right => par (left.mapped f) (right.mapped f)
  | modify control body => modify control (body.mapped f)
  | stray number => stray number

@[simp] theorem mapped_id (piece : Music α) : piece.mapped id = piece := by
  induction piece with
  | prim primitive => rw [mapped, Primitive.map_id]
  | seq left right ihleft ihright | par left right ihleft ihright =>
    rw [mapped, ihleft, ihright]
  | modify control body ih => rw [mapped, ih]
  | stray number => rfl

@[simp] theorem mapped_mapped (f : β → γ) (g : α → β) (piece : Music α) :
    (piece.mapped g).mapped f = piece.mapped (f ∘ g) := by
  induction piece with
  | prim primitive => simp only [mapped, Primitive.map_map]
  | seq left right ihleft ihright | par left right ihleft ihright =>
    simp only [mapped, ihleft, ihright]
  | modify control body ih => simp only [mapped, ih]
  | stray number => rfl

@[simp] theorem stray?_mapped (f : α → β) (piece : Music α) :
    (piece.mapped f).stray? = piece.stray? := by
  induction piece with
  | seq left right ihleft ihright | par left right ihleft ihright =>
    simp only [mapped, stray?, ihleft, ihright]
  | modify control body ih => exact ih
  | _ => rfl

/-- Changing payloads gives the piece with them, unless a number stands in the place of a piece. -/
theorem map_eq (f : α → β) (piece : Music α) : piece.map f =
    match piece.stray? with
    | none => .ok (piece.mapped f)
    | some number => .error (.strayPiece number) := by
  rw [map, Fold.walk_eq_collapse]
  induction piece with
  | prim primitive => rfl
  | seq left right ihleft ihright | par left right ihleft ihright =>
    rw [Fold.collapse, ihleft, ihright, stray?]
    cases left.stray? <;> cases right.stray? <;> rfl
  | modify control body ih =>
    rw [Fold.collapse, ih, stray?]
    cases body.stray? <;> rfl
  | stray number => rfl

theorem Whole.map_eq {piece : Music α} (hwhole : piece.Whole) (f : α → β) :
    piece.map f = .ok (piece.mapped f) := by
  rw [Music.map_eq, hwhole]

/-- Changes one after the other are one change, and meet the same number in the place of a piece. -/
theorem map_bind_map (f : β → γ) (g : α → β) (piece : Music α) :
    (piece.map g >>= fun changed => changed.map f) = piece.map (f ∘ g) := by
  rw [map_eq, map_eq (f ∘ g)]
  cases hstray : piece.stray? with
  | none =>
    rw [← mapped_mapped]
    exact Whole.map_eq (by rw [Whole, stray?_mapped, hstray]) f
  | some number => rfl

end Music

namespace Fold

variable {m : Type → Type}

/-- The fold that first changes the payload of a leaf. -/
def comap (f : α → β) (fold : Fold m β γ) : Fold m α γ where
  onPrim primitive := fold.onPrim (primitive.map f)
  onSeq := fold.onSeq
  onPar := fold.onPar
  onModify := fold.onModify

/-- A fold of changed payloads may change them on the way. -/
theorem collapse_mapped [Monad m] [MonadExceptOf Fault m] (fold : Fold m β γ) (f : α → β)
    (piece : Music α) : fold.collapse (piece.mapped f) = (fold.comap f).collapse piece := by
  induction piece with
  | prim primitive => rfl
  | seq left right ihleft ihright | par left right ihleft ihright =>
    simp only [Music.mapped, collapse, ihleft, ihright, comap]
  | modify control body ih => simp only [Music.mapped, collapse, ih, comap]
  | stray number => rfl

end Fold

namespace Music

/-- The measure does not look at payloads. -/
theorem measure_comap (f : α → β) : (measure (α := β)).comap f = measure := by
  simp only [Fold.comap, measure, Primitive.length_map]

theorem length_mapped (f : α → β) (piece : Music α) :
    (piece.mapped f).length = piece.length := by
  rw [length, length, Fold.walk_eq_collapse, Fold.walk_eq_collapse, Fold.collapse_mapped,
    measure_comap]

end Music

/-- The node with other payloads in the piece that it may have on its left. -/
def Ancestor.map (f : α → β) : Ancestor α → Ancestor β
  | seqLeft => seqLeft
  | seqRight left => seqRight (left.mapped f)
  | parLeft => parLeft
  | parRight => parRight
  | under control => under control

/-- The note with another payload, in the same place. -/
def Leaf.map (f : α → β) (leaf : Leaf α) : Leaf β where
  path := leaf.path.map (Ancestor.map f)
  length := leaf.length
  payload := f leaf.payload

theorem Leaf.map_comp_below (f : α → β) (ancestor : Ancestor α) :
    Leaf.map f ∘ Leaf.below ancestor = Leaf.below (ancestor.map f) ∘ Leaf.map f := rfl

/-- The notes stay in their places. -/
theorem Music.leaves_mapped (f : α → β) (piece : Music α) :
    (piece.mapped f).leaves = piece.leaves.map (Leaf.map f) := by
  induction piece with
  | prim primitive => cases primitive <;> rfl
  | seq left right ihleft ihright | par left right ihleft ihright =>
    simp only [mapped, leaves, ihleft, ihright, List.map_append, List.map_map,
      Leaf.map_comp_below, Ancestor.map]
  | modify control body ih =>
    simp only [mapped, leaves, ih, List.map_map, Leaf.map_comp_below, Ancestor.map]
  | stray number => rfl

/-- Changing payloads is functorial and fuses with every fold. Changes made one after the other are
one change, whether or not a number stands in the place of a piece. If none does, changing nothing
gives the piece, spelled as before; and a changed piece is folded, with handlers that may fail and
have any effects, as the piece itself with each payload changed on the way. In particular its
measure is spelled the same, and its notes have the changed payloads in the same order. -/
theorem map_fuses_with_fold (f : β → γ) (g : α → β) (piece : Music α) :
    (piece.map g >>= fun changed => changed.map f) = piece.map (f ∘ g) ∧
    (piece.Whole → piece.map id = .ok piece ∧ ∃ changed, piece.map g = .ok changed ∧
      (∀ (m : Type → Type) [Monad m] [MonadExceptOf Fault m] [LawfulFaults m] (δ : Type)
        (fold : Fold m β δ), fold.walk changed = (fold.comap g).walk piece) ∧
      changed.length = piece.length ∧
      changed.leaves.map Leaf.payload = piece.leaves.map fun leaf => g leaf.payload) := by
  refine ⟨piece.map_bind_map f g, fun hwhole => ⟨?_, piece.mapped g, hwhole.map_eq g, ?_, ?_, ?_⟩⟩
  · rw [hwhole.map_eq, Music.mapped_id]
  · intro m _ _ _ δ fold
    rw [Fold.walk_eq_collapse, Fold.walk_eq_collapse, Fold.collapse_mapped]
  · exact Music.length_mapped g piece
  · rw [Music.leaves_mapped, List.map_map]
    rfl

/-- Two notes about a rest, with a longer note under them. -/
def motif : Music Int :=
  .par
    (.seq (.modify (.tempo ⟨2, 1⟩) (.prim (.note ⟨1, 4⟩ 60)))
      (.seq (.prim (.rest ⟨1, 8⟩)) (.prim (.note ⟨2, 8⟩ 64))))
    (.prim (.note ⟨6, 8⟩ 48))

/-- The motif an octave higher. -/
theorem motif_raised :
    motif.Whole ∧ motif.map id = .ok motif ∧ ∃ raised, motif.map (· + 12) = .ok raised ∧
      raised.map Payload.pitch = motif.map (Payload.pitch ∘ (· + 12)) ∧
      raised.length = .ok ⟨6, 8⟩ ∧ raised.leaves.map Leaf.payload = [72, 76, 60] := by
  have hwhole : motif.Whole := by decide
  have hlength : motif.length = .ok ⟨6, 8⟩ := by
    rw [Music.length, Fold.walk_eq_collapse]
    decide +kernel
  obtain ⟨hmaps, hrest⟩ := map_fuses_with_fold Payload.pitch (· + 12) motif
  obtain ⟨hid, raised, hraised, _, hmeasure, hpayloads⟩ := hrest hwhole
  rw [hraised] at hmaps
  exact ⟨hwhole, hid, raised, hraised, hmaps, hmeasure.trans hlength, hpayloads⟩

end Polyphony
