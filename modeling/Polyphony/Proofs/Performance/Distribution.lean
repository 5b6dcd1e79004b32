import Polyphony.Proofs.Performance.Laws
import Polyphony.Proofs.Player.Pointwise

/-!
# Controls over lines and chords

A control around a line or a chord may be put around each of the two parts instead. Deriving a
context and letting time pass touch different fields of it, and a phrase without ramps shapes every
event by itself, before or after the parts are joined.
-/

namespace Polyphony

namespace Context

variable (roster : Option Roster) (context : Context) (control : Control) (elapsed : Ratio)

/-- Time may pass before or after a control derives a context. -/
theorem derived_later :
    (context.later elapsed).derived roster control =
      (context.derived roster control).later elapsed := by
  cases control <;> rfl

/-- Which controls derive a context does not change with time. -/
theorem later_admits_iff : (context.later elapsed).Admits control ↔ context.Admits control := by
  cases control <;> rfl

end Context

/-- An outcome whose events were shaped one by one. -/
structure Outcome.Shaped (attributes : List PhraseAttribute) (outcome shaped : Outcome) : Prop where
  /-- Each event is shaped by itself. -/
  events : outcome.events.mapM (PhraseAttribute.shapeAll attributes) = .ok shaped.events
  /-- The time that it took is the same. -/
  elapsed : shaped.elapsed = outcome.elapsed

namespace Outcome

variable {attributes : List PhraseAttribute} {left right outcome : Outcome}

/-- Outcomes in a row are shaped when each is. -/
theorem shaped_inRow_iff : (left.inRow right).Shaped attributes outcome ↔
    ∃ l r, left.Shaped attributes l ∧ right.Shaped attributes r ∧ outcome = l.inRow r := by
  constructor
  · rintro ⟨hevents, helapsed⟩
    rw [inRow, List.mapM_append] at hevents
    obtain ⟨l, hl, r, hr, heq⟩ := by simpa using hevents
    refine ⟨⟨l, left.elapsed⟩, ⟨r, right.elapsed⟩, ⟨hl, rfl⟩, ⟨hr, rfl⟩, ?_⟩
    rw [inRow, heq, ← show outcome.elapsed = .ofValue _ from helapsed]
  · rintro ⟨l, r, ⟨hl, hlElapsed⟩, ⟨hr, hrElapsed⟩, rfl⟩
    refine ⟨?_, ?_⟩
    · rw [inRow, List.mapM_append]
      exact bind_eq_ok_iff.mpr ⟨_, hl, bind_eq_ok_iff.mpr ⟨_, hr, rfl⟩⟩
    · simp only [inRow, hlElapsed, hrElapsed]

/-- Outcomes together are shaped when each is. -/
theorem shaped_atOnce_iff : (left.atOnce right).Shaped attributes outcome ↔
    ∃ l r, left.Shaped attributes l ∧ right.Shaped attributes r ∧ outcome = l.atOnce r := by
  have hmap {events : List Event} :
      (Performance.interleave left.events right.events).mapM
          (PhraseAttribute.shapeAll attributes) = .ok events ↔
        ∃ l r, left.events.mapM (PhraseAttribute.shapeAll attributes) = .ok l ∧
          right.events.mapM (PhraseAttribute.shapeAll attributes) = .ok r ∧
          events = Performance.interleave l r :=
    Performance.mapM_interleave_eq_ok_iff fun _ _ => PhraseAttribute.time_of_shapeAll
  constructor
  · rintro ⟨hevents, helapsed⟩
    obtain ⟨l, r, hl, hr, heq⟩ := hmap.mp hevents
    refine ⟨⟨l, left.elapsed⟩, ⟨r, right.elapsed⟩, ⟨hl, rfl⟩, ⟨hr, rfl⟩, ?_⟩
    rw [atOnce, ← heq, ← show outcome.elapsed = left.elapsed.larger right.elapsed from helapsed]
  · rintro ⟨l, r, ⟨hl, hlElapsed⟩, ⟨hr, hrElapsed⟩, rfl⟩
    refine ⟨hmap.mpr ⟨_, _, hl, hr, rfl⟩, ?_⟩
    simp only [atOnce, hlElapsed, hrElapsed]

end Outcome

/-- A phrase without ramps performs when its body does and each of the events can be shaped. -/
theorem Performs.steady_phrase_iff {players : Roster} {context : Context} {body : Music Payload}
    {outcome : Outcome} {attributes : List PhraseAttribute}
    (hsteady : ∀ attr ∈ attributes, ¬ attr.Ramp) :
    Performs (some players) context (.modify (.phrase attributes) body) outcome ↔
      ∃ inner, Performs (some players) context body inner ∧ inner.Shaped attributes outcome := by
  simp only [phrase_iff, Player.applyPhraseAttributes_eq_ok_iff hsteady]
  constructor
  · rintro ⟨inner, shaped, hbody, hshaped, rfl⟩
    exact ⟨inner, hbody, hshaped, rfl⟩
  · rintro ⟨inner, hbody, hshaped, helapsed⟩
    exact ⟨inner, outcome.events, hbody, hshaped, helapsed ▸ rfl⟩

namespace Music

variable {roster : Option Roster} {players : Roster} {control : Control}
  {attributes : List PhraseAttribute}

/-- A control that derives contexts may be put around both parts of a line. -/
theorem modify_seq_alike (hphrase : ∀ attributes, control ≠ .phrase attributes)
    (a b : Music Payload) :
    Alike roster (.modify control (.seq a b)) (.seq (.modify control a) (.modify control b)) := by
  refine .of_performs_iff fun context hcontext outcome => ?_
  simp only [Performs.modify_iff hphrase, Performs.seq_iff hcontext,
    Performs.seq_iff (hcontext.derived roster control), Context.derived_later,
    Context.later_admits_iff]
  constructor
  · rintro ⟨hadmits, l, r, ha, hb, rfl⟩
    exact ⟨l, r, ⟨hadmits, ha⟩, ⟨hadmits, hb⟩, rfl⟩
  · rintro ⟨l, r, ⟨hadmits, ha⟩, ⟨_, hb⟩, rfl⟩
    exact ⟨hadmits, l, r, ha, hb, rfl⟩

/-- A control that derives contexts may be put around both parts of a chord. -/
theorem modify_par_alike (hphrase : ∀ attributes, control ≠ .phrase attributes)
    (a b : Music Payload) :
    Alike roster (.modify control (.par a b)) (.par (.modify control a) (.modify control b)) := by
  refine .of_performs_iff fun context hcontext outcome => ?_
  simp only [Performs.modify_iff hphrase, Performs.par_iff hcontext,
    Performs.par_iff (hcontext.derived roster control)]
  constructor
  · rintro ⟨hadmits, l, r, ha, hb, rfl⟩
    exact ⟨l, r, ⟨hadmits, ha⟩, ⟨hadmits, hb⟩, rfl⟩
  · rintro ⟨l, r, ⟨hadmits, ha⟩, ⟨_, hb⟩, rfl⟩
    exact ⟨hadmits, l, r, ha, hb, rfl⟩

/-- A phrase without ramps may be put around both parts of a line. -/
theorem phrase_seq_alike (hsteady : ∀ attr ∈ attributes, ¬ attr.Ramp) (a b : Music Payload) :
    Alike (some players) (.modify (.phrase attributes) (.seq a b))
      (.seq (.modify (.phrase attributes) a) (.modify (.phrase attributes) b)) := by
  refine .of_performs_iff fun context hcontext outcome => ?_
  simp only [Performs.steady_phrase_iff hsteady, Performs.seq_iff hcontext]
  constructor
  · rintro ⟨_, ⟨l, r, ha, hb, rfl⟩, hshaped⟩
    obtain ⟨l', r', hl, hr, rfl⟩ := Outcome.shaped_inRow_iff.mp hshaped
    rw [← hl.elapsed] at hb
    exact ⟨l', r', ⟨l, ha, hl⟩, ⟨r, hb, hr⟩, rfl⟩
  · rintro ⟨l', r', ⟨l, ha, hl⟩, ⟨r, hb, hr⟩, rfl⟩
    rw [hl.elapsed] at hb
    exact ⟨l.inRow r, ⟨l, r, ha, hb, rfl⟩, Outcome.shaped_inRow_iff.mpr ⟨l', r', hl, hr, rfl⟩⟩

/-- A phrase without ramps may be put around both parts of a chord. -/
theorem phrase_par_alike (hsteady : ∀ attr ∈ attributes, ¬ attr.Ramp) (a b : Music Payload) :
    Alike (some players) (.modify (.phrase attributes) (.par a b))
      (.par (.modify (.phrase attributes) a) (.modify (.phrase attributes) b)) := by
  refine .of_performs_iff fun context hcontext outcome => ?_
  simp only [Performs.steady_phrase_iff hsteady, Performs.par_iff hcontext]
  constructor
  · rintro ⟨_, ⟨l, r, ha, hb, rfl⟩, hshaped⟩
    obtain ⟨l', r', hl, hr, rfl⟩ := Outcome.shaped_atOnce_iff.mp hshaped
    exact ⟨l', r', ⟨l, ha, hl⟩, ⟨r, hb, hr⟩, rfl⟩
  · rintro ⟨l', r', ⟨l, ha, hl⟩, ⟨r, hb, hr⟩, rfl⟩
    exact ⟨l.atOnce r, ⟨l, r, ha, hb, rfl⟩, Outcome.shaped_atOnce_iff.mpr ⟨l', r', hl, hr, rfl⟩⟩

/-- Without a roster, phrases are silent however they are put around a line or a chord. -/
theorem silent_phrase_alike (a b : Music Payload) :
    Alike none (.modify (.phrase attributes) (.seq a b))
        (.seq (.modify (.phrase attributes) a) (.modify (.phrase attributes) b)) ∧
      Alike none (.modify (.phrase attributes) (.par a b))
        (.par (.modify (.phrase attributes) a) (.modify (.phrase attributes) b)) := by
  have hrow : Outcome.silence.inRow .silence = .silence := by decide +kernel
  have honce : Outcome.silence.atOnce .silence = .silence :=
    Outcome.atOnce_silence Ratio.value_zero.ge
  constructor
  · refine .of_performs_iff fun context hcontext outcome => ?_
    simp only [Performs.silence_iff, Performs.seq_iff hcontext]
    constructor
    · exact fun houtcome => ⟨.silence, .silence, rfl, rfl, houtcome.trans hrow.symm⟩
    · rintro ⟨_, _, rfl, rfl, houtcome⟩
      exact houtcome.trans hrow
  · refine .of_performs_iff fun context hcontext outcome => ?_
    simp only [Performs.silence_iff, Performs.par_iff hcontext]
    constructor
    · exact fun houtcome => ⟨.silence, .silence, rfl, rfl, houtcome.trans honce.symm⟩
    · rintro ⟨_, _, rfl, rfl, houtcome⟩
      exact houtcome.trans honce

end Music

/-- Controls distribute over lines and chords. Every control but a phrase that carries a ramp may be
put around both parts of a line or of a chord, with a roster or without: the piece performs exactly
when it did, with the same events in the same order and in the same time. -/
theorem perform_control_over_parts {roster : Option Roster} {control : Control}
    (hsteady : control.EachAttribute fun attr => ¬ attr.Ramp) (a b : Music Payload) :
    Music.Alike roster (.modify control (.seq a b))
        (.seq (.modify control a) (.modify control b)) ∧
      Music.Alike roster (.modify control (.par a b))
        (.par (.modify control a) (.modify control b)) := by
  obtain ⟨attributes, rfl⟩ | hphrase := control.phrase_or_other
  · cases roster with
    | none => exact Music.silent_phrase_alike a b
    | some players => exact ⟨Music.phrase_seq_alike hsteady a b, Music.phrase_par_alike hsteady a b⟩
  · exact ⟨Music.modify_seq_alike hphrase a b, Music.modify_par_alike hphrase a b⟩

open Performance in
/-- An accented and shortened phrase around the specimen and itself. -/
theorem specimen_phrase_over_parts :
    (Control.phrase [.accent ⟨1, 2⟩, .staccato ⟨2, 3⟩]).EachAttribute (fun attr => ¬ attr.Ramp) ∧
    Music.Alike (some .standard)
        (.modify (.phrase [.accent ⟨1, 2⟩, .staccato ⟨2, 3⟩]) (.seq specimen specimen))
        (.seq (.modify (.phrase [.accent ⟨1, 2⟩, .staccato ⟨2, 3⟩]) specimen)
          (.modify (.phrase [.accent ⟨1, 2⟩, .staccato ⟨2, 3⟩]) specimen)) ∧
      Music.Alike (some .standard)
        (.modify (.phrase [.accent ⟨1, 2⟩, .staccato ⟨2, 3⟩]) (.par specimen specimen))
        (.par (.modify (.phrase [.accent ⟨1, 2⟩, .staccato ⟨2, 3⟩]) specimen)
          (.modify (.phrase [.accent ⟨1, 2⟩, .staccato ⟨2, 3⟩]) specimen)) := by
  have hsteady : (Control.phrase [.accent ⟨1, 2⟩, .staccato ⟨2, 3⟩]).EachAttribute
      (fun attr => ¬ attr.Ramp) := by decide
  exact ⟨hsteady, perform_control_over_parts hsteady specimen specimen⟩

end Polyphony
