import Polyphony.Proofs.Performance.LowestTerms
import Polyphony.Proofs.Performance.Definedness

/-!
# Performances of composed pieces

From a context whose times have values nothing can go wrong where the performances of parts are put
together, so a composed piece performs exactly when its parts do, and its outcome is a plain function
of theirs. This file states each rule of performance as such an equivalence.
-/

namespace Polyphony

namespace Context

/-- The context a while later, for a while that has a value. -/
def later (context : Context) (elapsed : Ratio) : Context :=
  { context with time := .ofValue (context.time.value + elapsed.value) }

theorem Defined.later {context : Context} (hcontext : context.Defined) (elapsed : Ratio) :
    (context.later elapsed).Defined :=
  ⟨Ratio.ofValue_defined _, hcontext.lengthScale, hcontext.durationScale⟩

/-- A while after a while is the sum of both. -/
theorem later_later (context : Context) (first second : Ratio) :
    (context.later first).later second =
      context.later (.ofValue (first.value + second.value)) := by
  simp only [later, Ratio.value_ofValue, add_assoc]

end Context

namespace Outcome

/-- One outcome after another. -/
def inRow (left right : Outcome) : Outcome :=
  ⟨left.events ++ right.events, .ofValue (left.elapsed.value + right.elapsed.value)⟩

/-- Two outcomes together. -/
def atOnce (left right : Outcome) : Outcome :=
  ⟨Performance.interleave left.events right.events, left.elapsed.larger right.elapsed⟩

/-- Outcomes at times that have values can be joined. -/
theorem together_eq_ok {left right : Outcome} (hleft : left.Defined) (hright : right.Defined) :
    left.together right = .ok (left.atOnce right) := by
  have hmerge := Performance.merge_eq_ok hleft.times hright.times
  have hmax : left.elapsed.max right.elapsed = .ok (left.elapsed.larger right.elapsed) :=
    Ratio.max_eq_ok_iff.mpr ⟨hleft.elapsed, hright.elapsed, rfl⟩
  exact bind_eq_ok_iff.mpr ⟨_, hmerge, bind_eq_ok_iff.mpr ⟨_, hmax, rfl⟩⟩

end Outcome

namespace Performs

variable {roster : Option Roster} {context : Context} {left right body : Music Payload}
  {outcome : Outcome}

/-- A line performs when its left piece does, and then its right piece. -/
theorem seq_iff (hcontext : context.Defined) :
    Performs roster context (.seq left right) outcome ↔
      ∃ l r, Performs roster context left l ∧ Performs roster (context.later l.elapsed) right r ∧
        outcome = l.inRow r := by
  constructor
  · rintro (_ | _ | ⟨hleft, hlater, hright, hjoin⟩)
    obtain ⟨_, _, rfl⟩ := Context.advanced_eq_ok_iff.mp hlater
    obtain ⟨_, _, rfl⟩ := Outcome.followedBy_eq_ok_iff.mp hjoin
    exact ⟨_, _, hleft, hright, rfl⟩
  · rintro ⟨l, r, hleft, hright, rfl⟩
    have hl := hleft.defined hcontext
    have hr := hright.defined (hcontext.later l.elapsed)
    refine .seq hleft ?_ hright ?_
    · exact Context.advanced_eq_ok_iff.mpr ⟨hcontext.time, hl.elapsed, rfl⟩
    · exact Outcome.followedBy_eq_ok_iff.mpr ⟨hl.elapsed, hr.elapsed, rfl⟩

/-- Two pieces perform together when each does. -/
theorem par_iff (hcontext : context.Defined) :
    Performs roster context (.par left right) outcome ↔
      ∃ l r, Performs roster context left l ∧ Performs roster context right r ∧
        outcome = l.atOnce r := by
  constructor
  · rintro (_ | _ | _ | ⟨hleft, hright, hjoin⟩)
    obtain rfl := Outcome.eq_of_together hjoin
    exact ⟨_, _, hleft, hright, rfl⟩
  · rintro ⟨l, r, hleft, hright, rfl⟩
    exact .par hleft hright
      (Outcome.together_eq_ok (hleft.defined hcontext) (hright.defined hcontext))

/-- Under any control but a phrase, a piece performs as its body does in the derived context, where
there is one. -/
theorem modify_iff {control : Control} (hphrase : ∀ attributes, control ≠ .phrase attributes) :
    Performs roster context (.modify control body) outcome ↔
      context.Admits control ∧ Performs roster (context.derived roster control) body outcome := by
  constructor
  · rintro (_ | _ | _ | _ | _ | _ | ⟨_, hunder, hbody⟩)
    · exact absurd rfl (hphrase _)
    · exact absurd rfl (hphrase _)
    · obtain ⟨hadmits, rfl⟩ := Context.under_eq_ok_iff.mp hunder
      exact ⟨hadmits, hbody⟩
  · rintro ⟨hadmits, hbody⟩
    exact .modify hphrase (Context.under_eq_ok_iff.mpr ⟨hadmits, rfl⟩) hbody

/-- With a roster, a phrase performs when its body does and the player can shape the events. -/
theorem phrase_iff {players : Roster} {attributes : List PhraseAttribute} :
    Performs (some players) context (.modify (.phrase attributes) body) outcome ↔
      ∃ inner shaped, Performs (some players) context body inner ∧
        context.player.applyPhraseAttributes inner.elapsed inner.events attributes = .ok shaped ∧
        outcome = ⟨shaped, inner.elapsed⟩ := by
  constructor
  · rintro (_ | _ | _ | _ | ⟨_, hbody, hshaped⟩ | hnone | ⟨hphrase, _, _⟩)
    · exact ⟨_, _, hbody, hshaped, rfl⟩
    · exact absurd hnone (by simp)
    · exact absurd rfl (hphrase attributes)
  · rintro ⟨inner, shaped, hbody, hshaped, rfl⟩
    exact .phrase rfl hbody hshaped

/-- Without a roster, a phrase performs as silence. -/
theorem silence_iff {attributes : List PhraseAttribute} :
    Performs none context (.modify (.phrase attributes) body) outcome ↔ outcome = .silence := by
  constructor
  · rintro (_ | _ | _ | _ | ⟨hroster, _, _⟩ | _ | ⟨hphrase, _, _⟩)
    · exact absurd hroster (by simp)
    · rfl
    · exact absurd rfl (hphrase attributes)
  · rintro rfl
    exact .silence rfl

/-- Nothing performs as silence. -/
theorem unit_iff (hcontext : context.Defined) :
    Performs roster context .unit outcome ↔ outcome = .silence := by
  have hzero : Ratio.zero.mul context.lengthScale = .ok .zero := by
    refine Ratio.mul_eq_ok_iff.mpr ⟨Ratio.zero_defined, hcontext.lengthScale, ?_⟩
    rw [Ratio.value_zero, zero_mul]
    rfl
  constructor
  · rintro (_ | helapsed)
    obtain rfl := Except.ok.inj (hzero.symm.trans helapsed)
    rfl
  · rintro rfl
    exact .rest hzero

end Performs

end Polyphony
