import Polyphony.Music.Basic
import Polyphony.Proofs.Music.Attribute
import Polyphony.Proofs.Music.Control

/-!
# Well-formed pieces

What the checked ways of building a piece make sure of: lengths and amounts have values, tempos are
positive, and no number stands in the place of a piece or of a control.
-/

namespace Polyphony

/-- The control is one that can be built. -/
def Control.WellFormed : Control → Prop
  | tempo ratio => (tempo ratio).Checked
  | phrase attributes => ∀ attr ∈ attributes, attr.amount.Defined
  | stray _ => False
  | transpose _ | instrument _ | key _ | custom _ => True

instance : DecidablePred Control.WellFormed
  | .tempo ratio => inferInstanceAs (Decidable (Control.tempo ratio).Checked)
  | .phrase attributes => inferInstanceAs (Decidable (∀ attr ∈ attributes, attr.amount.Defined))
  | .stray _ => inferInstanceAs (Decidable False)
  | .transpose _ | .instrument _ | .key _ | .custom _ => inferInstanceAs (Decidable True)

/-- A control that can be built passed its check. -/
theorem Control.WellFormed.checked {control : Control} (hcontrol : control.WellFormed) :
    control.Checked := by
  cases control with
  | tempo ratio => exact hcontrol
  | _ => trivial

namespace Music

variable {α : Type}

/-- The piece is one that can be built, and its lengths have values. -/
def WellFormed : Music α → Prop
  | prim primitive => primitive.length.Defined
  | seq left right => left.WellFormed ∧ right.WellFormed
  | par left right => left.WellFormed ∧ right.WellFormed
  | modify control body => control.WellFormed ∧ body.WellFormed
  | stray _ => False

instance decidableWellFormed : (piece : Music α) → Decidable piece.WellFormed
  | prim primitive => inferInstanceAs (Decidable primitive.length.Defined)
  | seq left right | par left right =>
    have := decidableWellFormed left
    have := decidableWellFormed right
    inferInstanceAs (Decidable (left.WellFormed ∧ right.WellFormed))
  | modify control body =>
    have := decidableWellFormed body
    inferInstanceAs (Decidable (control.WellFormed ∧ body.WellFormed))
  | stray _ => inferInstanceAs (Decidable False)

end Music

end Polyphony
