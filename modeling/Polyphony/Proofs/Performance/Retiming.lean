import Polyphony.Proofs.Performance.Composition
import Polyphony.Proofs.Performance.Weave
import Polyphony.Proofs.Player.Retiming

/-!
# Performances after a change of time

A context that differs from another by a change of time has scales stretched by its factor. A piece
performs under the one when it performs under the other, with outcomes that differ by the same
change. Since a change of time can be taken back, one direction proves both.
-/

namespace Polyphony

/-- A context after a change of time. -/
structure Context.Retimed (retiming : Retiming) (context retimed : Context) : Prop where
  /-- The times of the context have values. -/
  defined : context.Defined
  /-- So have the changed ones. -/
  retimed_defined : retimed.Defined
  /-- The time is changed. -/
  time : retimed.time.value = retiming.apply context.time.value
  /-- The scale of lengths is stretched. -/
  lengthScale : retimed.lengthScale.value = retiming.factor * context.lengthScale.value
  /-- The scale of durations is stretched. -/
  durationScale : retimed.durationScale.value = retiming.factor * context.durationScale.value
  /-- All else is as before. -/
  same : retimed = { context with
    time := retimed.time
    lengthScale := retimed.lengthScale
    durationScale := retimed.durationScale }

namespace Context.Retimed

variable {retiming : Retiming} {context retimed : Context}

theorem player (hretimed : context.Retimed retiming retimed) : retimed.player = context.player :=
  (congrArg Context.player hretimed.same :)

/-- A change of time can be taken back. -/
theorem symm (hretimed : context.Retimed retiming retimed) :
    retimed.Retimed retiming.inverse context where
  defined := hretimed.retimed_defined
  retimed_defined := hretimed.defined
  time := by rw [hretimed.time, retiming.inverse_apply_apply]
  lengthScale := by rw [hretimed.lengthScale, retiming.inverse_factor_mul]
  durationScale := by rw [hretimed.durationScale, retiming.inverse_factor_mul]
  same := (congrArg (fun inner : Context => { inner with
    time := context.time
    lengthScale := context.lengthScale
    durationScale := context.durationScale }) hretimed.same).symm

/-- The right of a line starts later by a stretched while. -/
theorem later (hretimed : context.Retimed retiming retimed) (elapsed : Ratio) :
    (context.later elapsed).Retimed retiming
      (retimed.later (.ofValue (retiming.factor * elapsed.value))) where
  defined := hretimed.defined.later elapsed
  retimed_defined := hretimed.retimed_defined.later _
  time := by
    simp only [Context.later, Ratio.value_ofValue, hretimed.time, retiming.apply_add]
  lengthScale := hretimed.lengthScale
  durationScale := hretimed.durationScale
  same := congrArg (fun inner : Context => { inner with
    time := .ofValue (retimed.time.value + (Ratio.ofValue (retiming.factor * elapsed.value)).value) })
    hretimed.same

theorem admits (hretimed : context.Retimed retiming retimed) {control : Control}
    (hadmits : context.Admits control) : retimed.Admits control := by
  cases control with
  | tempo ratio =>
    exact ⟨hretimed.retimed_defined.lengthScale, hretimed.retimed_defined.durationScale, hadmits.2.2⟩
  | _ => exact hadmits

/-- Controls derive retimed contexts from retimed ones. -/
theorem derived (hretimed : context.Retimed retiming retimed) (roster : Option Roster)
    (control : Control) :
    (context.derived roster control).Retimed retiming (retimed.derived roster control) where
  defined := hretimed.defined.derived roster control
  retimed_defined := hretimed.retimed_defined.derived roster control
  time := by rw [derived_time, derived_time, hretimed.time]
  lengthScale := by
    rw [derived_lengthScale_value, derived_lengthScale_value, hretimed.lengthScale, mul_div_assoc]
  durationScale := by
    rw [derived_durationScale_value, derived_durationScale_value, hretimed.durationScale,
      mul_div_assoc]
  same := by
    rw [hretimed.same]
    cases control <;> rfl

end Context.Retimed

/-- An outcome after a change of time. -/
structure Outcome.Retimed (retiming : Retiming) (outcome retimed : Outcome) : Prop where
  /-- The time that the piece took is stretched. -/
  elapsed : retimed.elapsed = .ofValue (retiming.factor * outcome.elapsed.value)
  /-- The events are retimed one by one. -/
  events : List.Forall₂ (Event.Retimed retiming) outcome.events retimed.events

namespace Outcome.Retimed

variable {retiming : Retiming} {left left' right right' : Outcome}

theorem silence : Retimed retiming .silence .silence where
  elapsed := by
    simp only [Outcome.silence, Ratio.value_zero, mul_zero]
    rfl
  events := .nil

/-- Retimed outcomes follow each other as those before did. -/
theorem inRow (hleft : left.Retimed retiming left') (hright : right.Retimed retiming right') :
    (left.inRow right).Retimed retiming (left'.inRow right') where
  elapsed := by
    simp only [Outcome.inRow, hleft.elapsed, hright.elapsed, Ratio.value_ofValue, mul_add]
  events := List.rel_append hleft.events hright.events

/-- Retimed outcomes go together as those before did. -/
theorem atOnce (hleft : left.Retimed retiming left') (hright : right.Retimed retiming right') :
    (left.atOnce right).Retimed retiming (left'.atOnce right') where
  elapsed := by
    simp only [Outcome.atOnce, Ratio.larger, hleft.elapsed, hright.elapsed, Ratio.value_ofValue,
      mul_lt_mul_iff_right₀ retiming.factor_pos]
    split <;> rfl
  events := Performance.forall₂_interleave
    (fun _ _ _ _ hl hr => hl.time_lt_iff hr) hleft.events hright.events

/-- What holds between every event in lowest terms and the retimed one holds between the events of
retimed outcomes one by one. -/
theorem forall₂_events {R : Event → Event → Prop} (hretimed : left.Retimed retiming left')
    (hlowest : left.LowestTerms)
    (hrelated : ∀ event event', event.Retimed retiming event' → event.length.LowestTerms →
      event.duration.LowestTerms → R event event') :
    List.Forall₂ R left.events left'.events := by
  have hboth := (List.forall₂_and_left _ _).mpr
    ⟨fun event hevent => And.intro (hlowest.lengths event hevent)
      (hlowest.durations event hevent), hretimed.events⟩
  exact hboth.imp fun _ _ ⟨⟨hlength, hduration⟩, hevent⟩ => hrelated _ _ hevent hlength hduration

end Outcome.Retimed

/-- The event of a note in a retimed context is the retimed event of the note. -/
theorem Context.Retimed.noteEvent {retiming : Retiming} {context retimed : Context}
    (hretimed : context.Retimed retiming retimed) (length : Ratio) (payload : Payload) :
    (Player.noteEvent context length payload).Retimed retiming
      (Player.noteEvent retimed length payload) where
  defined := hretimed.defined.time
  retimed_defined := hretimed.retimed_defined.time
  time := hretimed.time
  length := by
    simp only [Player.noteEvent, Ratio.value_ofValue, hretimed.lengthScale, mul_assoc]
  duration := by
    simp only [Player.noteEvent, Ratio.value_ofValue, hretimed.durationScale, mul_assoc]
  same := by
    rw [hretimed.same]
    rfl

/-- A piece performs in a retimed context as before, with a retimed outcome. -/
theorem Performs.retimed {roster : Option Roster} {retiming : Retiming}
    {context retimed : Context} {piece : Music Payload} {outcome : Outcome}
    (hperforms : Performs roster context piece outcome)
    (hretimed : context.Retimed retiming retimed) :
    ∃ outcome', Performs roster retimed piece outcome' ∧ outcome.Retimed retiming outcome' := by
  induction hperforms generalizing retimed with
  | @note context length elapsed payload event helapsed hevent =>
    obtain ⟨hlength, _, rfl⟩ := Ratio.mul_eq_ok_iff.mp helapsed
    obtain ⟨_, _, _, rfl⟩ := Player.playNote_eq_ok_iff.mp hevent
    have hdefined := hretimed.retimed_defined
    refine ⟨_, .note (Ratio.mul_eq_ok_iff.mpr ⟨hlength, hdefined.lengthScale, rfl⟩)
      (Player.playNote_eq_ok_iff.mpr
        ⟨hdefined.lengthScale, hdefined.durationScale, hlength, rfl⟩), ?_, ?_⟩
    · rw [hretimed.lengthScale, Ratio.value_ofValue, mul_left_comm]
    · exact .cons (hretimed.noteEvent length payload) .nil
  | @rest context length elapsed helapsed =>
    obtain ⟨hlength, _, rfl⟩ := Ratio.mul_eq_ok_iff.mp helapsed
    have hdefined := hretimed.retimed_defined
    refine ⟨_, .rest (Ratio.mul_eq_ok_iff.mpr ⟨hlength, hdefined.lengthScale, rfl⟩), ?_, .nil⟩
    rw [hretimed.lengthScale, Ratio.value_ofValue, mul_left_comm]
  | @seq context _ left right l r outcome hleft hlater hright hjoin ihleft ihright =>
    obtain ⟨_, _, rfl⟩ := Context.advanced_eq_ok_iff.mp hlater
    obtain ⟨_, _, rfl⟩ := Outcome.followedBy_eq_ok_iff.mp hjoin
    obtain ⟨l', hleft', hl⟩ := ihleft hretimed
    obtain ⟨r', hright', hr⟩ := ihright (hretimed.later l.elapsed)
    rw [← hl.elapsed] at hright'
    exact ⟨l'.inRow r', (seq_iff hretimed.retimed_defined).mpr ⟨l', r', hleft', hright', rfl⟩,
      hl.inRow hr⟩
  | par hleft hright hjoin ihleft ihright =>
    obtain rfl := Outcome.eq_of_together hjoin
    obtain ⟨l', hleft', hl⟩ := ihleft hretimed
    obtain ⟨r', hright', hr⟩ := ihright hretimed
    exact ⟨l'.atOnce r', (par_iff hretimed.retimed_defined).mpr ⟨l', r', hleft', hright', rfl⟩,
      hl.atOnce hr⟩
  | phrase hroster hbody hshaped ih =>
    obtain ⟨inner', hbody', hinner⟩ := ih hretimed
    obtain ⟨shaped', hshaped', hrelated⟩ :=
      Player.exists_applyPhraseAttributes hinner.events hshaped
    rw [← hinner.elapsed, ← hretimed.player] at hshaped'
    exact ⟨_, .phrase hroster hbody' hshaped', hinner.elapsed, hrelated⟩
  | silence hroster => exact ⟨.silence, .silence hroster, .silence⟩
  | modify hphrase hunder hbody ih =>
    obtain ⟨hadmits, rfl⟩ := Context.under_eq_ok_iff.mp hunder
    obtain ⟨outcome', hbody', houtcome⟩ := ih (hretimed.derived _ _)
    exact ⟨outcome', (modify_iff hphrase).mpr ⟨hretimed.admits hadmits, hbody'⟩, houtcome⟩

namespace Context.Retimed

variable {retiming : Retiming} {context retimed : Context}

/-- A piece performs in a retimed context exactly when it did before. -/
theorem performs_iff (hretimed : context.Retimed retiming retimed) (roster : Option Roster)
    (piece : Music Payload) :
    (∃ outcome, (piece.perform roster retimed).result = .ok outcome) ↔
      ∃ outcome, (piece.perform roster context).result = .ok outcome := by
  simp only [Music.perform_result_iff]
  constructor
  · rintro ⟨outcome, hperforms⟩
    obtain ⟨outcome', hperforms', _⟩ := hperforms.retimed hretimed.symm
    exact ⟨outcome', hperforms'⟩
  · rintro ⟨outcome, hperforms⟩
    obtain ⟨outcome', hperforms', _⟩ := hperforms.retimed hretimed
    exact ⟨outcome', hperforms'⟩

/-- What a piece comes to in a retimed context is the retimed outcome of before. -/
theorem outcome_retimed (hretimed : context.Retimed retiming retimed) {roster : Option Roster}
    {piece : Music Payload} {outcome outcome' : Outcome}
    (hok : (piece.perform roster context).result = .ok outcome)
    (hok' : (piece.perform roster retimed).result = .ok outcome') :
    outcome.Retimed retiming outcome' := by
  obtain ⟨_, hperforms, houtcome⟩ := (Music.perform_result_iff.mp hok).retimed hretimed
  obtain rfl := Except.ok.inj (hok'.symm.trans (Music.perform_result_iff.mpr hperforms))
  exact houtcome

end Context.Retimed

end Polyphony
