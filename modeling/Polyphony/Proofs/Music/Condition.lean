import Polyphony.Music.Basic

/-!
# Conditions on pieces

Conditions on the lengths of all leaves, on all controls and on some control of a piece. They can be
decided by going through the piece.
-/

namespace Polyphony.Music

variable {α : Type}

/-- All leaves have lengths of a kind. -/
def EachLength (kind : Ratio → Prop) : Music α → Prop
  | prim primitive => kind primitive.length
  | seq left right => left.EachLength kind ∧ right.EachLength kind
  | par left right => left.EachLength kind ∧ right.EachLength kind
  | modify _ body => body.EachLength kind
  | stray _ => True

/-- All controls are of a kind. -/
def EachControl (kind : Control → Prop) : Music α → Prop
  | prim _ => True
  | seq left right => left.EachControl kind ∧ right.EachControl kind
  | par left right => left.EachControl kind ∧ right.EachControl kind
  | modify control body => kind control ∧ body.EachControl kind
  | stray _ => True

/-- Some control is of a kind. -/
def HasControl (kind : Control → Prop) : Music α → Prop
  | prim _ => False
  | seq left right => left.HasControl kind ∨ right.HasControl kind
  | par left right => left.HasControl kind ∨ right.HasControl kind
  | modify control body => kind control ∨ body.HasControl kind
  | stray _ => False

instance decidableEachLength (kind : Ratio → Prop) [DecidablePred kind] :
    (piece : Music α) → Decidable (piece.EachLength kind)
  | prim primitive => inferInstanceAs (Decidable (kind primitive.length))
  | seq left right | par left right =>
    have := decidableEachLength kind left
    have := decidableEachLength kind right
    inferInstanceAs (Decidable (left.EachLength kind ∧ right.EachLength kind))
  | modify _ body => decidableEachLength kind body
  | stray _ => inferInstanceAs (Decidable True)

instance decidableEachControl (kind : Control → Prop) [DecidablePred kind] :
    (piece : Music α) → Decidable (piece.EachControl kind)
  | prim _ => inferInstanceAs (Decidable True)
  | seq left right | par left right =>
    have := decidableEachControl kind left
    have := decidableEachControl kind right
    inferInstanceAs (Decidable (left.EachControl kind ∧ right.EachControl kind))
  | modify control body =>
    have := decidableEachControl kind body
    inferInstanceAs (Decidable (kind control ∧ body.EachControl kind))
  | stray _ => inferInstanceAs (Decidable True)

instance decidableHasControl (kind : Control → Prop) [DecidablePred kind] :
    (piece : Music α) → Decidable (piece.HasControl kind)
  | prim _ => inferInstanceAs (Decidable False)
  | seq left right | par left right =>
    have := decidableHasControl kind left
    have := decidableHasControl kind right
    inferInstanceAs (Decidable (left.HasControl kind ∨ right.HasControl kind))
  | modify control body =>
    have := decidableHasControl kind body
    inferInstanceAs (Decidable (kind control ∨ body.HasControl kind))
  | stray _ => inferInstanceAs (Decidable False)

end Polyphony.Music
