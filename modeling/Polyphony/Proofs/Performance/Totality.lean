import Polyphony.Proofs.Music.Condition
import Polyphony.Proofs.Music.WellFormed
import Polyphony.Proofs.Performance.Composition
import Polyphony.Proofs.Performance.LowestTerms
import Polyphony.Proofs.Performance.Room
import Polyphony.Proofs.Player.Overflow

/-!
# Well-formed pieces perform

Every performance of a well-formed piece under a defined context has an outcome, unless a dynamic
asks for a volume that is too large for a double, or phrases are nested deeper than the stack has
room for. Divisions are safe at every node: a checked tempo is not zero, ramps look at the elapsed
time first, and a performance never comes to a time without a value, from which an operation could
fail later on.
-/

namespace Polyphony

/-- A piece somewhere in which new volumes are made. -/
def Music.Dynamic {α : Type} (piece : Music α) : Prop :=
  piece.HasControl (Control.HasAttribute PhraseAttribute.Dynamic)

instance {α : Type} (piece : Music α) : Decidable piece.Dynamic :=
  Music.decidableHasControl _ piece

/-- A well-formed control derives a context from a defined one. -/
theorem Control.WellFormed.admits {context : Context} {control : Control}
    (hcontrol : control.WellFormed) (hcontext : context.Defined) : context.Admits control := by
  cases control with
  | tempo ratio =>
    obtain ⟨_, hpos, _⟩ := checkedTempo_eq_ok_iff.mp hcontrol
    exact ⟨hcontext.lengthScale, hcontext.durationScale, Ratio.numer_ne_zero hpos.ne'⟩
  | stray number => exact hcontrol.elim
  | _ => trivial

/-- A leaf performs when its length has a value. -/
theorem Performs.exists_prim {context : Context} {primitive : Primitive Payload}
    (hlength : primitive.length.Defined) (hcontext : context.Defined) (roster : Option Roster) :
    ∃ outcome, Performs roster context (.prim primitive) outcome := by
  cases primitive with
  | note length payload =>
    have hevent : Player.playNote context length payload =
        .ok (Player.noteEvent context length payload) :=
      Player.playNote_eq_ok_iff.mpr
        ⟨hcontext.lengthScale, hcontext.durationScale, hlength, rfl⟩
    exact ⟨_, .note (hlength.mul_eq hcontext.lengthScale) hevent⟩
  | rest length => exact ⟨_, .rest (hlength.mul_eq hcontext.lengthScale)⟩

/-- The events of a performance under a defined context are ones that a player can shape. -/
theorem Performs.events_defined {roster : Option Roster} {context : Context}
    {piece : Music Payload} {outcome : Outcome} (hperforms : Performs roster context piece outcome)
    (hcontext : context.Defined) : ∀ event ∈ outcome.events, event.Defined := by
  intro event hevent
  exact ⟨(hperforms.defined hcontext).times event hevent,
    (hperforms.lowestTerms.durations event hevent).defined⟩

/-- A well-formed piece has an outcome by recursion, unless a dynamic asks for too large a
volume. -/
theorem Music.WellFormed.outcome_safe {piece : Music Payload} (hpiece : piece.WellFormed)
    (roster : Option Roster) {context : Context} (hcontext : context.Defined) :
    SafeUpTo piece.Dynamic .ratioTooLarge (piece.outcome roster context).result := by
  induction piece generalizing context with
  | prim primitive =>
    obtain ⟨_, hperforms⟩ := Performs.exists_prim hpiece hcontext roster
    exact .of_ok hperforms.outcome_result
  | seq left right ihleft ihright =>
    simp only [outcome, Recorded.result_bind, Recorded.result_lift]
    refine ((ihleft hpiece.1 hcontext).mono .inl).bind fun l hl => ?_
    have hl := (Performs.of_outcome_result hl).defined hcontext
    refine .step (Context.advanced_eq_ok_iff.mpr ⟨hcontext.time, hl.elapsed, rfl⟩) ?_
    have hlater := hcontext.later l.elapsed
    refine ((ihright hpiece.2 hlater).mono .inr).bind fun r hr => ?_
    have hr := (Performs.of_outcome_result hr).defined hlater
    exact .of_ok (Outcome.followedBy_eq_ok_iff.mpr ⟨hl.elapsed, hr.elapsed, rfl⟩)
  | par left right ihleft ihright =>
    simp only [outcome, Recorded.result_bind, Recorded.result_lift]
    refine ((ihleft hpiece.1 hcontext).mono .inl).bind fun l hl => ?_
    refine ((ihright hpiece.2 hcontext).mono .inr).bind fun r hr => ?_
    have hl := (Performs.of_outcome_result hl).defined hcontext
    have hr := (Performs.of_outcome_result hr).defined hcontext
    exact .of_ok (Outcome.together_eq_ok hl hr)
  | modify control body ih =>
    obtain ⟨hcontrol, hbody⟩ := hpiece
    obtain ⟨attributes, rfl⟩ | hphrase := control.phrase_or_other
    · cases roster with
      | none => exact .of_ok (Performs.silence rfl).outcome_result
      | some players =>
        simp only [outcome, Outcome.phrase, Recorded.result_bind, Recorded.result_lift]
        refine .step rfl (((ih hbody hcontext).mono .inr).bind fun unshaped hunshaped => ?_)
        have hperforms := Performs.of_outcome_result hunshaped
        have helapsed := (hperforms.defined hcontext).elapsed
        have hevents := hperforms.events_defined hcontext
        have hshaped := Player.applyPhraseAttributes_safe context.player hcontrol helapsed hevents
        exact (hshaped.mono .inl).bind_pure
    · rw [outcome_modify roster context hphrase, Recorded.result_bind]
      have hunder : (context.under roster control).result = .ok (context.derived roster control) :=
        Context.under_eq_ok_iff.mpr ⟨hcontrol.admits hcontext, rfl⟩
      exact .step hunder ((ih hbody (hcontext.derived roster control)).mono .inr)
  | stray number => exact hpiece.elim

/-- On a stack without a limit, a well-formed piece that has no outcome has a dynamic in it that
asks for too large a volume. -/
theorem Music.WellFormed.perform_safe {piece : Music Payload} (hpiece : piece.WellFormed)
    (roster : Option Roster) {context : Context} (hcontext : context.Defined) :
    SafeUpTo piece.Dynamic .ratioTooLarge (piece.perform roster context).result := by
  rw [perform_eq_outcome]
  exact hpiece.outcome_safe roster hcontext

/-- A crescendo over a passage that goes back to where it began. -/
def Performance.standstill : Music Payload :=
  .modify (.custom "player Fancy")
    (.modify (.phrase [.crescendo ⟨1, -2⟩])
      (.seq (.prim (.note ⟨-1, 4⟩ (.pitch 60))) (.prim (.rest ⟨2, 8⟩))))

/-- What the passage comes to. -/
def Performance.standstillOutcome : Outcome :=
  ⟨[⟨⟨0, 1⟩, 60, 127, ⟨-1, 4⟩, ⟨-1, 8⟩, .first, true, []⟩], ⟨0, 1⟩⟩

/-- An accent can ask for too much. -/
example : (Outcome.phrase (some .standard) .standard [.accent ⟨Nat.pow 10 309, 1⟩]
    (Outcome.ofPrimitive .standard (.note .one (.pitch 60)))).result = .error .ratioTooLarge := by
  decide +kernel

/-- With a roster, a well-formed piece without dynamics comes to the end of a room that its phrases
are nested deeper than. -/
theorem Music.WellFormed.performWithin_eq_error {piece : Music Payload} (hpiece : piece.WellFormed)
    (hsteady : ¬ piece.Dynamic) {room : Nat} (hdeeper : room < piece.phraseDepth)
    (players : Roster) {context : Context} (hcontext : context.Defined) :
    (piece.performWithin room (some players) context).result = .error .nestedTooDeep := by
  obtain ⟨outcome, hok⟩ | ⟨hdynamic, _⟩ := hpiece.perform_safe (some players) hcontext
  · exact Music.performWithin_eq_error hok hdeeper
  · exact absurd hdynamic hsteady

section Nested

/-- A phrase within a phrase, and so on to a depth, around a piece. -/
def Music.nested (depth : Nat) (piece : Music Payload) : Music Payload :=
  Nat.repeat (modify (.phrase [])) depth piece

variable {piece : Music Payload} (depth : Nat)

theorem Music.phraseDepth_nested :
    (nested depth piece).phraseDepth = depth + piece.phraseDepth := by
  induction depth with
  | zero => exact (Nat.zero_add _).symm
  | succ depth ih =>
    calc (nested (depth + 1) piece).phraseDepth
        = (nested depth piece).phraseDepth + 1 := rfl
      _ = depth + 1 + piece.phraseDepth := by rw [ih]; omega

theorem Music.WellFormed.nested (hpiece : piece.WellFormed) :
    (Music.nested depth piece).WellFormed := by
  induction depth with
  | zero => exact hpiece
  | succ depth ih => exact ⟨List.forall_mem_nil _, ih⟩

theorem Music.not_dynamic_nested (hsteady : ¬ piece.Dynamic) : ¬ (nested depth piece).Dynamic := by
  induction depth with
  | zero => exact hsteady
  | succ depth ih =>
    have hplain : ¬ Control.HasAttribute PhraseAttribute.Dynamic (.phrase []) := by decide
    exact not_or.mpr ⟨hplain, ih⟩

end Nested

/-- A note a hundred thousand phrases deep. -/
def Performance.abyss : Music Payload := .nested 100000 (.prim (.note ⟨1, 4⟩ (.pitch 60)))

open Performance in
theorem Performance.abyss_facts : abyss.WellFormed ∧ ¬ abyss.Dynamic ∧
    usualRoom < abyss.phraseDepth := by
  refine ⟨Music.WellFormed.nested _ (by decide), Music.not_dynamic_nested _ (by decide), ?_⟩
  rw [abyss, Music.phraseDepth_nested]
  decide

end Polyphony
