import Polyphony.Proofs.Performance.Retiming

/-!
# Performances at another time

A shift is a change of time with the factor one. So a piece performs later as it does now, with every
event as much later and otherwise the same, and a passage sounds the same wherever it stands in a
line.
-/

namespace Polyphony

/-- The change of time of a shift. -/
def Retiming.translation (shift : Rat) : Retiming where
  factor := 1
  shift := shift
  factor_pos := one_pos

/-- A later context is retimed by the shift. -/
theorem Context.Defined.retimed_later {context : Context} (hcontext : context.Defined)
    (shift : Ratio) :
    context.Retimed (.translation shift.value) (context.later shift) where
  defined := hcontext
  retimed_defined := hcontext.later shift
  time := by
    simp only [Context.later, Ratio.value_ofValue, Retiming.apply, Retiming.translation, one_mul]
  lengthScale := (one_mul _).symm
  durationScale := (one_mul _).symm
  same := rfl

/-- An event moved in time, and otherwise the same. -/
structure Event.Moved (shift : Rat) (event moved : Event) : Prop where
  /-- Both are at times that have values, which differ by the shift. -/
  time : event.time.Defined ∧ moved.time.Defined ∧
    moved.time.value = event.time.value + shift
  /-- All else is the same. -/
  same : moved = { event with time := moved.time }

/-- Events that are retimed by a shift are moved by it. -/
theorem Event.Retimed.moved {shift : Rat} {event retimed : Event}
    (hretimed : event.Retimed (.translation shift) retimed)
    (hlength : event.length.LowestTerms) (hduration : event.duration.LowestTerms) :
    event.Moved shift retimed where
  time := by
    refine ⟨hretimed.defined, hretimed.retimed_defined, ?_⟩
    rw [hretimed.time, Retiming.apply, Retiming.translation, one_mul]
  same := by
    have hsameLength : retimed.length = event.length := by
      rw [hretimed.length, Retiming.translation, one_mul, ← hlength.eq_ofValue]
    have hsameDuration : retimed.duration = event.duration := by
      rw [hretimed.duration, Retiming.translation, one_mul, ← hduration.eq_ofValue]
    have hsame := hretimed.same
    rw [hsameLength, hsameDuration] at hsame
    exact hsame

/-- An outcome moved in time: the same time taken, and every event moved. -/
structure Outcome.Moved (shift : Rat) (outcome moved : Outcome) : Prop where
  /-- The piece takes the same time. -/
  elapsed : moved.elapsed = outcome.elapsed
  /-- The events are moved one by one. -/
  events : List.Forall₂ (Event.Moved shift) outcome.events moved.events

/-- Outcomes of performances that are retimed by a shift are moved by it. -/
theorem Outcome.Retimed.moved {shift : Rat} {outcome retimed : Outcome}
    (hretimed : outcome.Retimed (.translation shift) retimed) (hlowest : outcome.LowestTerms) :
    outcome.Moved shift retimed where
  elapsed := by
    rw [hretimed.elapsed, Retiming.translation, one_mul, ← hlowest.elapsed.eq_ofValue]
  events := hretimed.forall₂_events hlowest fun _ _ hevent => hevent.moved

/-- What a piece comes to in a later context is the moved outcome of before. -/
theorem Context.Defined.outcome_moved {context : Context} (hcontext : context.Defined)
    {shift : Ratio} {roster : Option Roster} {piece : Music Payload} {outcome moved : Outcome}
    (hok : (piece.perform roster context).result = .ok outcome)
    (hmoved : (piece.perform roster (context.later shift)).result = .ok moved) :
    outcome.Moved shift.value moved :=
  ((hcontext.retimed_later shift).outcome_retimed hok hmoved).moved
    (Music.perform_result_iff.mp hok).lowestTerms

/-- A line that goes on performs its beginning first. -/
theorem Performs.exists_of_foldl_seq {roster : Option Roster} {context : Context}
    (hcontext : context.Defined) {pieces : List (Music Payload)} {first : Music Payload}
    {outcome : Outcome} (hperforms : Performs roster context (pieces.foldl .seq first) outcome) :
    ∃ start back, Performs roster context first start ∧ outcome.events = start.events ++ back := by
  induction pieces generalizing first with
  | nil => exact ⟨outcome, [], hperforms, (List.append_nil _).symm⟩
  | cons piece pieces ih =>
    obtain ⟨start, back, hstart, hevents⟩ := ih hperforms
    obtain ⟨l, r, hl, _, rfl⟩ := (seq_iff hcontext).mp hstart
    exact ⟨l, r.events ++ back, hl, by rw [hevents, Outcome.inRow, List.append_assoc]⟩

/-- A shift of the start shifts a performance. Every piece performs later exactly when it does now,
in the same time and with the same events, each of them later by the shift and otherwise the same,
volumes included. So in a line every passage has the events that it has on its own, later by the time
that the line before it takes. -/
theorem perform_advanced {roster : Option Roster} {context : Context} {shift : Ratio}
    (hcontext : context.Defined) (hshift : shift.Defined) :
    (∃ later, context.advanced shift = .ok later ∧
      (∀ piece : Music Payload,
        (∃ moved, (piece.perform roster later).result = .ok moved) ↔
          ∃ outcome, (piece.perform roster context).result = .ok outcome) ∧
      ∀ (piece : Music Payload) (outcome moved : Outcome),
        (piece.perform roster context).result = .ok outcome →
        (piece.perform roster later).result = .ok moved →
          moved.elapsed = outcome.elapsed ∧
          List.Forall₂ (Event.Moved shift.value) outcome.events moved.events) ∧
    ∀ (before after : List (Music Payload)) (piece : Music Payload) (whole : Outcome),
      ((Music.line (before ++ piece :: after)).perform roster context).result = .ok whole →
        ∃ front alone passage back,
          ((Music.line before).perform roster context).result = .ok front ∧
          (piece.perform roster context).result = .ok alone ∧
          whole.events = front.events ++ passage ++ back ∧
          List.Forall₂ (Event.Moved front.elapsed.value) alone.events passage := by
  have hretimed := hcontext.retimed_later shift
  constructor
  · refine ⟨context.later shift, ?_, hretimed.performs_iff roster, ?_⟩
    · exact Context.advanced_eq_ok_iff.mpr ⟨hcontext.time, hshift, rfl⟩
    · intro piece outcome moved hok hmoved
      have houtcome := hcontext.outcome_moved hok hmoved
      exact ⟨houtcome.elapsed, houtcome.events⟩
  · intro before after piece whole hok
    rw [Music.line, List.foldl_append, List.foldl_cons, Music.perform_result_iff] at hok
    obtain ⟨start, back, hstart, hevents⟩ := hok.exists_of_foldl_seq hcontext
    obtain ⟨front, there, hfront, hthere, rfl⟩ := (Performs.seq_iff hcontext).mp hstart
    have hpassage := Music.perform_result_iff.mpr hthere
    obtain ⟨alone, halone⟩ :=
      ((hcontext.retimed_later front.elapsed).performs_iff roster piece).mp ⟨there, hpassage⟩
    exact ⟨front, alone, there.events, back, Music.perform_result_iff.mpr hfront, halone, hevents,
      (hcontext.outcome_moved halone hpassage).events⟩

open Performance in
/-- The specimen half a unit of time later, with the half written out of lowest terms. -/
theorem specimen_advanced :
    (Context.standard.Defined ∧ (⟨2, 4⟩ : Ratio).Defined) ∧
    ∃ later moved, Context.standard.advanced ⟨2, 4⟩ = .ok later ∧
      (specimen.perform (some .standard) later).result = .ok moved ∧
      moved.elapsed = ⟨1, 1⟩ ∧
      List.Forall₂ (Event.Moved (1 / 2)) specimenOutcome.events moved.events := by
  have hshift : (⟨2, 4⟩ : Ratio).Defined := by decide
  have hvalue : (⟨2, 4⟩ : Ratio).value = 1 / 2 := by decide +kernel
  obtain ⟨later, hlater, hperforms, hcompare⟩ :=
    (perform_advanced Context.standard_defined hshift).1
  obtain ⟨moved, hmoved⟩ := (hperforms specimen).mpr ⟨specimenOutcome, perform_specimen⟩
  obtain ⟨helapsed, hevents⟩ := hcompare specimen specimenOutcome moved perform_specimen hmoved
  rw [hvalue] at hevents
  exact ⟨⟨Context.standard_defined, hshift⟩, later, moved, hlater, hmoved, helapsed, hevents⟩

end Polyphony
