import Polyphony.Control
import Polyphony.Proofs.Ratio.Comparison

/-!
# What controls come to

The factor, the shift and the channel that a control stands for, where it has one. The checked way
to build a tempo lets only ratios of positive value pass, so checked controls never make a piece
stand still or run backward.
-/

namespace Polyphony.Control

/-- A control is a phrase or another control. -/
theorem phrase_or_other (control : Control) :
    (∃ attributes, control = .phrase attributes) ∨ ∀ attributes, control ≠ .phrase attributes := by
  cases control <;> simp

/-- The factor by which a control speeds up its body. -/
def speed : Control → Rat
  | tempo ratio => ratio.value
  | _ => 1

/-- The semitones by which a control shifts its body. -/
def shift : Control → Int
  | transpose steps => steps
  | _ => 0

/-- The channel that a control sets. -/
def channel? : Control → Option Channel
  | instrument channel => some channel
  | _ => none

/-- Only tempos have another speed than one. -/
theorem speed_eq_one {control : Control} (hother : ∀ ratio, control ≠ .tempo ratio) :
    control.speed = 1 := by
  cases control with
  | tempo ratio => exact absurd rfl (hother ratio)
  | _ => rfl

/-- A tempo passes its check when its ratio has a positive value. -/
theorem checkedTempo_eq_ok_iff {ratio : Ratio} {control : Control} :
    checkedTempo ratio = .ok control ↔
      ratio.Defined ∧ 0 < ratio.value ∧ control = .tempo ratio := by
  simp only [checkedTempo, bind_eq_ok_iff, Ratio.le_eq_ok_iff, Ratio.zero_defined,
    Ratio.value_zero, true_and]
  constructor
  · rintro ⟨low, ⟨hdefined, rfl⟩, htempo⟩
    by_cases hlow : ratio.value ≤ 0
    · simp [hlow] at htempo
    · obtain rfl : tempo ratio = control := by simpa [hlow] using htempo
      exact ⟨hdefined, not_le.mp hlow, rfl⟩
  · rintro ⟨hdefined, hpos, rfl⟩
    exact ⟨_, ⟨hdefined, rfl⟩, by simp [not_le.mpr hpos]⟩

/-- The control passed the check that tempos are built with. -/
def Checked : Control → Prop
  | tempo ratio => checkedTempo ratio = .ok (tempo ratio)
  | _ => True

instance : DecidablePred Checked
  | tempo ratio => inferInstanceAs (Decidable (checkedTempo ratio = .ok (tempo ratio)))
  | transpose _ | instrument _ | key _ | phrase _ | custom _ | stray _ =>
    inferInstanceAs (Decidable True)

/-- A checked control speeds up by a positive factor. -/
theorem Checked.speed_pos {control : Control} (hchecked : control.Checked) :
    0 < control.speed := by
  cases control with
  | tempo ratio => exact (checkedTempo_eq_ok_iff.mp hchecked).2.1
  | _ => exact one_pos

end Polyphony.Control
