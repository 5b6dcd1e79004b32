import Polyphony.Proofs.Music.Fold
import Polyphony.Proofs.Music.WellFormed
import Polyphony.Proofs.Performance.Timing

/-!
# Written and performed length

The measure of a piece works from the leaves up and divides by tempos after the fact; a performance
works from the root down and scales the leaves. Both come to the same ratio because a scale that is
not negative keeps the longer of two pieces the longer one, and because a ratio in lowest terms is
determined by its value.
-/

namespace Polyphony

namespace Music

/-- A control whose speed is not zero divides the measure of its body by its speed. -/
theorem onModify_measure {control : Control} {length : Ratio} (hspeed : control.speed ≠ 0)
    (hlength : length.Defined) :
    ∃ quotient, (measure (α := Payload)).onModify control length = .ok quotient ∧
      quotient.Defined ∧ quotient.value = length.value / control.speed := by
  cases control with
  | tempo ratio =>
    have hdiv : length.div ratio = .ok (.ofValue (length.value / ratio.value)) :=
      Ratio.div_eq_ok_iff.mpr ⟨hlength, Ratio.numer_ne_zero hspeed, rfl⟩
    exact ⟨_, hdiv, Ratio.ofValue_defined _, Ratio.value_ofValue _⟩
  | _ => exact ⟨length, rfl, hlength, (div_one _).symm⟩

/-- A well-formed piece has a length. -/
theorem WellFormed.exists_length {piece : Music Payload} (hpiece : piece.WellFormed) :
    ∃ length, piece.length = .ok length ∧ length.Defined := by
  induction piece with
  | prim primitive => exact ⟨_, length_prim primitive, hpiece⟩
  | seq left right ihleft ihright =>
    obtain ⟨l, hl, hlDefined⟩ := ihleft hpiece.1
    obtain ⟨r, hr, hrDefined⟩ := ihright hpiece.2
    rw [length_seq, hl, hr]
    exact ⟨_, hlDefined.add_eq hrDefined, Ratio.ofValue_defined _⟩
  | par left right ihleft ihright =>
    obtain ⟨l, hl, hlDefined⟩ := ihleft hpiece.1
    obtain ⟨r, hr, hrDefined⟩ := ihright hpiece.2
    rw [length_par, hl, hr]
    refine ⟨l.larger r, Ratio.max_eq_ok_iff.mpr ⟨hlDefined, hrDefined, rfl⟩, ?_⟩
    rw [Ratio.larger]
    split
    · exact hrDefined
    · exact hlDefined
  | modify control body ih =>
    obtain ⟨length, hlength, hdefined⟩ := ih hpiece.2
    obtain ⟨quotient, hquotient, hquotientDefined, _⟩ :=
      onModify_measure hpiece.1.checked.speed_pos.ne' hdefined
    rw [length_modify, hlength]
    exact ⟨quotient, hquotient, hquotientDefined⟩
  | stray number => exact hpiece.elim

end Music

/-- The longer of two lengths is scaled into the longer of the scaled ones. -/
theorem Ratio.larger_ofValue_mul {l r : Ratio} {scale : Rat} (hscale : 0 ≤ scale) :
    (if (ofValue (l.value * scale)).value < (ofValue (r.value * scale)).value
      then ofValue (r.value * scale) else ofValue (l.value * scale)) =
      ofValue ((if l.value < r.value then r else l).value * scale) := by
  rw [value_larger, max_mul_of_nonneg _ _ hscale, max_def_lt, apply_ite ofValue, value_ofValue,
    value_ofValue]

namespace Performs

variable {roster : Option Roster} {context : Context} {piece : Music Payload} {outcome : Outcome}

/-- A performance that runs forward takes the written length of its piece, scaled. -/
theorem elapsed_eq (hperforms : Performs roster context piece outcome)
    (hroster : roster.isSome) (hcontext : context.Forward)
    (hcontrols : piece.EachControl Control.Checked) :
    ∃ length, piece.length = .ok length ∧ length.Defined ∧
      outcome.elapsed = .ofValue (length.value * context.lengthScale.value) := by
  induction hperforms with
  | note helapsed hevent =>
    obtain ⟨hlength, _, rfl⟩ := Ratio.mul_eq_ok_iff.mp helapsed
    exact ⟨_, Music.length_prim _, hlength, rfl⟩
  | rest helapsed =>
    obtain ⟨hlength, _, rfl⟩ := Ratio.mul_eq_ok_iff.mp helapsed
    exact ⟨_, Music.length_prim _, hlength, rfl⟩
  | seq hleft hlater hright hjoin ihleft ihright =>
    obtain ⟨l, hl, hlDefined, hlElapsed⟩ := ihleft hcontext hcontrols.1
    obtain ⟨r, hr, hrDefined, hrElapsed⟩ := ihright (hcontext.advanced hlater) hcontrols.2
    obtain ⟨_, _, rfl⟩ := Context.advanced_eq_ok_iff.mp hlater
    obtain ⟨_, _, rfl⟩ := Outcome.followedBy_eq_ok_iff.mp hjoin
    have hsum : l.add r = .ok (.ofValue (l.value + r.value)) :=
      Ratio.add_eq_ok_iff.mpr ⟨hlDefined, hrDefined, rfl⟩
    refine ⟨.ofValue (l.value + r.value), ?_, Ratio.ofValue_defined _, ?_⟩
    · rw [Music.length_seq, hl, hr]
      exact hsum
    · simp only [hlElapsed, hrElapsed, Ratio.value_ofValue, add_mul]
  | par hleft hright hjoin ihleft ihright =>
    obtain ⟨l, hl, hlDefined, hlElapsed⟩ := ihleft hcontext hcontrols.1
    obtain ⟨r, hr, hrDefined, hrElapsed⟩ := ihright hcontext hcontrols.2
    obtain rfl := Outcome.eq_of_together hjoin
    have hmax : l.max r = .ok (if l.value < r.value then r else l) :=
      Ratio.max_eq_ok_iff.mpr ⟨hlDefined, hrDefined, rfl⟩
    refine ⟨if l.value < r.value then r else l, ?_, ?_, ?_⟩
    · rw [Music.length_par, hl, hr]
      exact hmax
    · split
      · exact hrDefined
      · exact hlDefined
    · simp only [hlElapsed, hrElapsed]
      exact Ratio.larger_ofValue_mul hcontext.lengthScale_nonneg
  | phrase _ hbody hshaped ih =>
    obtain ⟨length, hlength, hdefined, helapsed⟩ := ih hcontext hcontrols.2
    refine ⟨length, ?_, hdefined, helapsed⟩
    rw [Music.length_modify, hlength]
    rfl
  | silence hnone => simp [hnone] at hroster
  | @modify context inner control body outcome hphrase hunder hbody ih =>
    obtain ⟨length, hlength, hdefined, helapsed⟩ :=
      ih (hcontext.under hcontrols.1 hunder) hcontrols.2
    obtain ⟨quotient, hquotient, hquotientDefined, hvalue⟩ :=
      Music.onModify_measure hcontrols.1.speed_pos.ne' hdefined
    obtain ⟨_, rfl⟩ := Context.under_eq_ok_iff.mp hunder
    refine ⟨quotient, ?_, hquotientDefined, ?_⟩
    · rw [Music.length_modify, hlength]
      exact hquotient
    · rw [helapsed, hvalue, Context.derived_lengthScale_value, div_mul_eq_mul_div, mul_div_assoc']

/-- The measured length, scaled, is the time that the performance takes. -/
theorem length_mul (hperforms : Performs roster context piece outcome)
    (hroster : roster.isSome) (hcontext : context.Forward)
    (hcontrols : piece.EachControl Control.Checked) :
    ∃ length, piece.length = .ok length ∧
      length.mul context.lengthScale = .ok outcome.elapsed := by
  obtain ⟨length, hlength, hdefined, helapsed⟩ := hperforms.elapsed_eq hroster hcontext hcontrols
  exact ⟨length, hlength, Ratio.mul_eq_ok_iff.mpr ⟨hdefined, hcontext.lengthScale, helapsed⟩⟩

/-- A control divides the time that its body takes without it by its speed. -/
theorem elapsed_modify {control : Control} {body : Music Payload} {inner : Outcome}
    (houter : Performs roster context (.modify control body) outcome)
    (hinner : Performs roster context body inner)
    (hroster : roster.isSome) (hcontext : context.Forward)
    (hcontrols : (Music.modify control body).EachControl Control.Checked) :
    outcome.elapsed = .ofValue (inner.elapsed.value / control.speed) := by
  obtain ⟨quotient, hquotient, _, houterElapsed⟩ := houter.elapsed_eq hroster hcontext hcontrols
  obtain ⟨length, hlength, hdefined, hinnerElapsed⟩ :=
    hinner.elapsed_eq hroster hcontext hcontrols.2
  obtain ⟨other, hother, _, hvalue⟩ :=
    Music.onModify_measure hcontrols.1.speed_pos.ne' hdefined
  have hsame : other = quotient := by
    rw [Music.length_modify, hlength] at hquotient
    exact Except.ok.inj (hother.symm.trans hquotient)
  rw [houterElapsed, hinnerElapsed, Ratio.value_ofValue, ← hsame, hvalue, div_mul_eq_mul_div]

end Performs

/-- A performance that runs forward takes the measured length of its piece, scaled, down to the
digits of the ratio. Of the controls, only tempos change what their body takes, and they change it
as they change its measure. -/
theorem perform_elapsed_eq_length {roster : Roster} {context : Context} {piece : Music Payload}
    {outcome : Outcome} (hcontext : context.Forward)
    (hcontrols : piece.EachControl Control.Checked)
    (hok : (piece.perform (some roster) context).result = .ok outcome) :
    (∃ length, piece.length = .ok length ∧
      length.mul context.lengthScale = .ok outcome.elapsed) ∧
    (∀ ratio body inner, piece = .modify (.tempo ratio) body →
      (body.perform (some roster) context).result = .ok inner →
        inner.elapsed.div ratio = .ok outcome.elapsed ∧
        piece.length = body.length >>= fun length => length.div ratio) ∧
    (∀ control body inner, (∀ ratio, control ≠ .tempo ratio) → piece = .modify control body →
      (body.perform (some roster) context).result = .ok inner →
        outcome.elapsed = inner.elapsed ∧ piece.length = body.length) := by
  have hperforms := Music.perform_result_iff.mp hok
  refine ⟨?_, ?_, ?_⟩
  · exact hperforms.length_mul rfl hcontext hcontrols
  · rintro ratio body inner rfl hbody
    have hinner := Music.perform_result_iff.mp hbody
    refine ⟨?_, Music.length_modify _ _⟩
    have helapsed := hperforms.elapsed_modify hinner rfl hcontext hcontrols
    have hdefined := (hinner.defined hcontext.toDefined).elapsed
    exact Ratio.div_eq_ok_iff.mpr
      ⟨hdefined, Ratio.numer_ne_zero hcontrols.1.speed_pos.ne', helapsed⟩
  · rintro control body inner hother rfl hbody
    have hinner := Music.perform_result_iff.mp hbody
    have hspeed := Control.speed_eq_one hother
    have helapsed := hperforms.elapsed_modify hinner rfl hcontext hcontrols
    obtain ⟨_, _, _, hinnerElapsed⟩ := hinner.elapsed_eq rfl hcontext hcontrols.2
    refine ⟨?_, Music.length_modify_of_ne_tempo hother body⟩
    rw [helapsed, hspeed, div_one, hinnerElapsed, Ratio.value_ofValue]

open Performance in
/-- The specimen takes its measure at the scale of the standard context, and a rest at a faster
tempo takes its own time divided by the tempo. -/
theorem specimen_elapsed_eq_length :
    (Context.standard.Forward ∧ specimen.EachControl Control.Checked ∧
      (specimen.perform (some .standard) .standard).result = .ok specimenOutcome) ∧
    (∃ length, specimen.length = .ok length ∧
      length.mul Context.standard.lengthScale = .ok specimenOutcome.elapsed) ∧
    Ratio.div ⟨1, 4⟩ ⟨3, 2⟩ = .ok ⟨1, 6⟩ := by
  have hcontext : Context.standard.Forward := ⟨Context.standard_defined, by decide +kernel⟩
  have hcontrols : specimen.EachControl Control.Checked := by decide +kernel
  have hrest : ((Music.prim (.rest ⟨1, 4⟩)).perform (some .standard) .standard).result =
      .ok ⟨[], ⟨1, 4⟩⟩ := by
    rw [Music.perform_eq_outcome]
    decide +kernel
  have hfaster : ((Music.modify (.tempo ⟨3, 2⟩) (.prim (.rest ⟨1, 4⟩))).perform
      (some .standard) .standard).result = .ok ⟨[], ⟨1, 6⟩⟩ := by
    rw [Music.perform_eq_outcome]
    decide +kernel
  have htempo := (perform_elapsed_eq_length hcontext (by decide +kernel) hfaster).2.1
  exact ⟨⟨hcontext, hcontrols, perform_specimen⟩,
    (perform_elapsed_eq_length hcontext hcontrols perform_specimen).1,
    (htempo ⟨3, 2⟩ _ _ rfl hrest).1⟩

end Polyphony
