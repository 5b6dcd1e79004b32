import Polyphony.Proofs.Performance.Alike
import Polyphony.Proofs.Performance.Translation
import Polyphony.Proofs.Performance.Weave

/-!
# Laws of lines and chords

Pieces in a row and pieces together make up two monoids, as far as can be heard: it does not matter
how a line or a chord is nested, and nothing is neutral in both. Nothing before a piece may only
write the times of its events in another way, and a chord with nothing takes no negative time.
-/

namespace Polyphony

theorem Ratio.larger_assoc (a b c : Ratio) : (a.larger b).larger c = a.larger (b.larger c) := by
  unfold larger
  split_ifs <;> first | rfl | (exfalso; linarith)

namespace Outcome

theorem inRow_assoc (a b c : Outcome) : (a.inRow b).inRow c = a.inRow (b.inRow c) := by
  simp only [inRow, Ratio.value_ofValue, List.append_assoc, add_assoc]

theorem atOnce_assoc (a b c : Outcome) : (a.atOnce b).atOnce c = a.atOnce (b.atOnce c) := by
  simp only [atOnce, Performance.interleave_assoc, Ratio.larger_assoc]

/-- Silence after an outcome adds nothing. -/
theorem LowestTerms.inRow_silence {outcome : Outcome} (hlowest : outcome.LowestTerms) :
    outcome.inRow .silence = outcome := by
  simp only [inRow, silence, List.append_nil, Ratio.value_zero, add_zero,
    ← hlowest.elapsed.eq_ofValue]

/-- Silence before an outcome adds nothing. -/
theorem LowestTerms.silence_inRow {outcome : Outcome} (hlowest : outcome.LowestTerms) :
    Outcome.silence.inRow outcome = outcome := by
  simp only [inRow, silence, List.nil_append, Ratio.value_zero, zero_add,
    ← hlowest.elapsed.eq_ofValue]

/-- An outcome that takes no negative time is the same together with silence. -/
theorem atOnce_silence {outcome : Outcome} (hnonneg : 0 ≤ outcome.elapsed.value) :
    outcome.atOnce .silence = outcome := by
  simp only [atOnce, silence, Performance.interleave_nil_right, Ratio.larger, Ratio.value_zero,
    if_neg (not_lt.mpr hnonneg)]

/-- Silence together with an outcome that takes no negative time is that outcome. -/
theorem LowestTerms.silence_atOnce {outcome : Outcome} (hlowest : outcome.LowestTerms)
    (hnonneg : 0 ≤ outcome.elapsed.value) : Outcome.silence.atOnce outcome = outcome := by
  have hlarger : Ratio.zero.larger outcome.elapsed = outcome.elapsed := by
    rw [Ratio.larger, Ratio.value_zero]
    split
    case isTrue _ => rfl
    case isFalse hzero =>
      have hvalue : outcome.elapsed.value = 0 := le_antisymm (not_lt.mp hzero) hnonneg
      rw [hlowest.elapsed.eq_ofValue, hvalue]
      rfl
  simp only [atOnce, silence, Performance.interleave_nil_left, hlarger]

end Outcome

namespace Music

variable {roster : Option Roster}

/-- It does not matter how a line is nested: the right piece starts at the same time either way. -/
theorem seq_assoc_alike (a b c : Music Payload) :
    Alike roster (.seq (.seq a b) c) (.seq a (.seq b c)) := by
  refine .of_performs_iff fun context hcontext outcome => ?_
  rw [Performs.seq_iff hcontext, Performs.seq_iff hcontext]
  constructor
  · rintro ⟨_, z, hab, hc, rfl⟩
    obtain ⟨x, y, ha, hb, rfl⟩ := (Performs.seq_iff hcontext).mp hab
    rw [Outcome.inRow, ← Context.later_later] at hc
    have hbc := (Performs.seq_iff (hcontext.later x.elapsed)).mpr ⟨y, z, hb, hc, rfl⟩
    exact ⟨x, y.inRow z, ha, hbc, Outcome.inRow_assoc x y z⟩
  · rintro ⟨x, _, ha, hbc, rfl⟩
    obtain ⟨y, z, hb, hc, rfl⟩ := (Performs.seq_iff (hcontext.later x.elapsed)).mp hbc
    rw [Context.later_later] at hc
    have hab := (Performs.seq_iff hcontext).mpr ⟨x, y, ha, hb, rfl⟩
    exact ⟨x.inRow y, z, hab, hc, (Outcome.inRow_assoc x y z).symm⟩

/-- It does not matter how a chord is nested, whether or not its parts are in the order of time. -/
theorem par_assoc_alike (a b c : Music Payload) :
    Alike roster (.par (.par a b) c) (.par a (.par b c)) := by
  refine .of_performs_iff fun context hcontext outcome => ?_
  simp only [Performs.par_iff hcontext]
  constructor
  · rintro ⟨_, z, ⟨x, y, ha, hb, rfl⟩, hc, rfl⟩
    exact ⟨x, y.atOnce z, ha, ⟨y, z, hb, hc, rfl⟩, Outcome.atOnce_assoc x y z⟩
  · rintro ⟨x, _, ha, ⟨y, z, hb, hc, rfl⟩, rfl⟩
    exact ⟨x.atOnce y, z, ⟨x, y, ha, hb, rfl⟩, hc, (Outcome.atOnce_assoc x y z).symm⟩

/-- Nothing may follow a piece. -/
theorem seq_unit_alike (a : Music Payload) : Alike roster (.seq a .unit) a := by
  refine .of_performs_iff fun context hcontext outcome => ?_
  rw [Performs.seq_iff hcontext]
  constructor
  · rintro ⟨l, r, hl, hr, rfl⟩
    obtain rfl := (Performs.unit_iff (hcontext.later l.elapsed)).mp hr
    rwa [hl.lowestTerms.inRow_silence]
  · intro ha
    have hunit : Performs roster (context.later outcome.elapsed) .unit .silence :=
      (Performs.unit_iff (hcontext.later outcome.elapsed)).mpr rfl
    exact ⟨outcome, .silence, ha, hunit, ha.lowestTerms.inRow_silence.symm⟩

end Music

namespace Performs

variable {roster : Option Roster} {context : Context} {piece : Music Payload} {outcome : Outcome}

/-- After nothing, a piece performs as it does where nothing has passed. -/
theorem unit_seq_iff (hcontext : context.Defined) :
    Performs roster context (.seq .unit piece) outcome ↔
      Performs roster (context.later .zero) piece outcome := by
  rw [seq_iff hcontext]
  constructor
  · rintro ⟨l, r, hl, hr, rfl⟩
    obtain rfl := (unit_iff hcontext).mp hl
    rwa [hr.lowestTerms.silence_inRow]
  · intro hpiece
    exact ⟨.silence, outcome, (unit_iff hcontext).mpr rfl, hpiece,
      hpiece.lowestTerms.silence_inRow.symm⟩

/-- Together with nothing, a piece that takes no negative time performs as on its own. -/
theorem par_unit_iff (hcontext : context.Defined)
    (hnonneg : ∀ alone, Performs roster context piece alone → 0 ≤ alone.elapsed.value) :
    Performs roster context (.par piece .unit) outcome ↔ Performs roster context piece outcome := by
  rw [par_iff hcontext]
  constructor
  · rintro ⟨l, r, hl, hr, rfl⟩
    obtain rfl := (unit_iff hcontext).mp hr
    rwa [Outcome.atOnce_silence (hnonneg l hl)]
  · intro hpiece
    exact ⟨outcome, .silence, hpiece, (unit_iff hcontext).mpr rfl,
      (Outcome.atOnce_silence (hnonneg outcome hpiece)).symm⟩

/-- Nothing together with a piece that takes no negative time performs as that piece. -/
theorem unit_par_iff (hcontext : context.Defined)
    (hnonneg : ∀ alone, Performs roster context piece alone → 0 ≤ alone.elapsed.value) :
    Performs roster context (.par .unit piece) outcome ↔ Performs roster context piece outcome := by
  rw [par_iff hcontext]
  constructor
  · rintro ⟨l, r, hl, hr, rfl⟩
    obtain rfl := (unit_iff hcontext).mp hl
    rwa [hr.lowestTerms.silence_atOnce (hnonneg r hr)]
  · intro hpiece
    exact ⟨.silence, outcome, (unit_iff hcontext).mpr rfl, hpiece,
      (hpiece.lowestTerms.silence_atOnce (hnonneg outcome hpiece)).symm⟩

/-- A chord that goes on takes no less time than its beginning. -/
theorem exists_le_of_foldl_par (hcontext : context.Defined) {pieces : List (Music Payload)}
    {first : Music Payload} (hperforms : Performs roster context (pieces.foldl .par first) outcome) :
    ∃ start, Performs roster context first start ∧
      start.elapsed.value ≤ outcome.elapsed.value := by
  induction pieces generalizing first with
  | nil => exact ⟨outcome, hperforms, le_rfl⟩
  | cons piece pieces ih =>
    obtain ⟨start, hstart, hle⟩ := ih hperforms
    obtain ⟨l, r, hl, _, rfl⟩ := (par_iff hcontext).mp hstart
    have hlonger : l.elapsed.value ≤ (l.elapsed.larger r.elapsed).value :=
      (Ratio.value_larger l.elapsed r.elapsed).symm ▸ le_max_left _ _
    exact ⟨l, hl, hlonger.trans hle⟩

end Performs

namespace Music

variable {roster : Option Roster}

/-- A chord may go on with nothing, since it takes no negative time. -/
theorem chord_par_unit_alike (pieces : List (Music Payload)) :
    Alike roster (.par (chord pieces) .unit) (chord pieces) := by
  refine .of_performs_iff fun context hcontext outcome => ?_
  refine Performs.par_unit_iff hcontext fun alone halone => ?_
  obtain ⟨start, hstart, hle⟩ := halone.exists_le_of_foldl_par hcontext
  obtain rfl := (Performs.unit_iff hcontext).mp hstart
  exact (Ratio.value_zero.symm.le).trans hle

/-- A line of two lists of pieces is the line of the one followed by the line of the other. -/
theorem line_append_alike (xs ys : List (Music Payload)) :
    Alike roster (line (xs ++ ys)) (.seq (line xs) (line ys)) := by
  rw [line, List.foldl_append]
  exact .foldl_unit seq_assoc_alike (fun halike => halike.seq (.refl _)) (seq_unit_alike _) ys

/-- A chord of two lists of pieces is the chord of the one together with the chord of the other. -/
theorem chord_append_alike (xs ys : List (Music Payload)) :
    Alike roster (chord (xs ++ ys)) (.par (chord xs) (chord ys)) := by
  rw [chord, List.foldl_append]
  exact .foldl_unit par_assoc_alike (fun halike => halike.par (.refl _))
    (chord_par_unit_alike xs) ys

end Music

/-- Lines and chords are monoids up to performance, for pieces of any lengths. Nesting does not
matter. Nothing after a piece changes nothing; nothing before it keeps the time that it takes and its
events, whose times may only be written in another way; and nothing together with a piece changes
nothing when the piece takes no negative time. So lines and chords may be cut anywhere, and chains
nested to the left perform like chains nested to the right. -/
theorem perform_composition_laws (roster : Option Roster) :
    (∀ a b c : Music Payload,
      Music.Alike roster (.seq (.seq a b) c) (.seq a (.seq b c)) ∧
      Music.Alike roster (.par (.par a b) c) (.par a (.par b c))) ∧
    (∀ a : Music Payload, Music.Alike roster (.seq a .unit) a) ∧
    (∀ (a : Music Payload) (context : Context), context.Defined →
      ((∃ outcome, ((Music.seq .unit a).perform roster context).result = .ok outcome) ↔
        ∃ outcome, (a.perform roster context).result = .ok outcome) ∧
      ∀ alone outcome, (a.perform roster context).result = .ok alone →
        ((Music.seq .unit a).perform roster context).result = .ok outcome →
          outcome.elapsed = alone.elapsed ∧
          List.Forall₂ (Event.Moved 0) alone.events outcome.events) ∧
    (∀ (a : Music Payload) (context : Context), context.Defined →
      (∀ alone, (a.perform roster context).result = .ok alone → 0 ≤ alone.elapsed.value) →
        ∀ outcome,
          (((Music.par a .unit).perform roster context).result = .ok outcome ↔
            (a.perform roster context).result = .ok outcome) ∧
          (((Music.par .unit a).perform roster context).result = .ok outcome ↔
            (a.perform roster context).result = .ok outcome)) ∧
    (∀ xs ys : List (Music Payload),
      Music.Alike roster (Music.line (xs ++ ys)) (.seq (Music.line xs) (Music.line ys)) ∧
      Music.Alike roster (Music.chord (xs ++ ys)) (.par (Music.chord xs) (Music.chord ys))) ∧
    ∀ (first last : Music Payload) (middle : List (Music Payload)),
      Music.Alike roster ((middle ++ [last]).foldl .seq first)
        ((first :: middle).foldr .seq last) ∧
      Music.Alike roster ((middle ++ [last]).foldl .par first)
        ((first :: middle).foldr .par last) := by
  refine ⟨?_, Music.seq_unit_alike, ?_, ?_, ?_, ?_⟩
  · exact fun a b c => ⟨Music.seq_assoc_alike a b c, Music.par_assoc_alike a b c⟩
  · intro a context hcontext
    simp only [Music.perform_result_iff, Performs.unit_seq_iff hcontext]
    simp only [← Music.perform_result_iff]
    refine ⟨(hcontext.retimed_later .zero).performs_iff roster a, fun alone outcome hok hlater => ?_⟩
    have hmoved := hcontext.outcome_moved hok hlater
    rw [Ratio.value_zero] at hmoved
    exact ⟨hmoved.elapsed, hmoved.events⟩
  · intro a context hcontext hnonneg outcome
    simp only [Music.perform_result_iff] at hnonneg ⊢
    exact ⟨Performs.par_unit_iff hcontext hnonneg, Performs.unit_par_iff hcontext hnonneg⟩
  · exact fun xs ys => ⟨Music.line_append_alike xs ys, Music.chord_append_alike xs ys⟩
  · intro first last middle
    exact ⟨.foldl_foldr Music.seq_assoc_alike first last middle,
      .foldl_foldr Music.par_assoc_alike first last middle⟩

open Performance in
/-- The specimen takes no negative time, so nothing may sound together with it. -/
theorem specimen_beside_unit :
    (Context.standard.Defined ∧ ∀ alone,
      (specimen.perform (some .standard) .standard).result = .ok alone →
        0 ≤ alone.elapsed.value) ∧
    ((Music.par specimen .unit).perform (some .standard) .standard).result =
      .ok specimenOutcome ∧
    ((Music.par .unit specimen).perform (some .standard) .standard).result =
      .ok specimenOutcome ∧
    ∃ outcome,
      ((Music.seq .unit specimen).perform (some .standard) .standard).result = .ok outcome ∧
        outcome.elapsed = .one := by
  have hnonneg : ∀ alone, (specimen.perform (some .standard) .standard).result = .ok alone →
      0 ≤ alone.elapsed.value := by
    intro alone halone
    obtain rfl := Except.ok.inj (perform_specimen.symm.trans halone)
    decide +kernel
  obtain ⟨_, _, hafter, hbeside, _⟩ := perform_composition_laws (some .standard)
  obtain ⟨hright, hleft⟩ := hbeside specimen _ Context.standard_defined hnonneg specimenOutcome
  obtain ⟨hperforms, hsame⟩ := hafter specimen _ Context.standard_defined
  obtain ⟨outcome, houtcome⟩ := hperforms.mpr ⟨specimenOutcome, perform_specimen⟩
  exact ⟨⟨Context.standard_defined, hnonneg⟩, hright.mpr perform_specimen,
    hleft.mpr perform_specimen, outcome, houtcome,
    (hsame specimenOutcome outcome perform_specimen houtcome).1⟩

end Polyphony
