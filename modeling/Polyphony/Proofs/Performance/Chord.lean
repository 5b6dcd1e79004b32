import Mathlib.Data.List.Induction
import Polyphony.Proofs.Performance.Stability
import Polyphony.Proofs.Performance.Timing
import Polyphony.Proofs.Performance.Composition

/-!
# Chords in any order

A chord performs when each of its pieces does, and its outcome joins theirs from silence on, one
after the other. The events and the time that it takes do not depend on the order of the pieces.
Where time runs forward the events are the stable sort of those of the pieces, the last piece first,
so another order only rearranges events of one time.
-/

namespace Polyphony

open Performance

namespace Outcome

/-- Outcomes together, starting from silence. -/
def allAtOnce (parts : List Outcome) : Outcome := parts.foldl atOnce .silence

theorem allAtOnce_append_singleton (parts : List Outcome) (last : Outcome) :
    allAtOnce (parts ++ [last]) = (allAtOnce parts).atOnce last :=
  List.foldl_concat atOnce .silence last parts

/-- Together, outcomes have the events of all of them. -/
theorem events_allAtOnce_perm (parts : List Outcome) :
    (allAtOnce parts).events.Perm (parts.flatMap events) := by
  induction parts using List.reverseRecOn with
  | nil => exact .refl []
  | append_singleton parts last ih =>
    rw [allAtOnce_append_singleton, List.flatMap_append, List.flatMap_singleton]
    exact (interleave_perm (allAtOnce parts).events last.events).trans (ih.append_right _)

/-- Together, outcomes take as long as the longest of them, and no negative time. -/
theorem elapsed_allAtOnce (parts : List Outcome) :
    (allAtOnce parts).elapsed.value = (parts.map fun part => part.elapsed.value).foldl max 0 := by
  induction parts using List.reverseRecOn with
  | nil => exact Ratio.value_zero
  | append_singleton parts last ih =>
    rw [allAtOnce_append_singleton, List.map_append, List.map_singleton, List.foldl_concat, ← ih]
    exact Ratio.value_larger (allAtOnce parts).elapsed last.elapsed

/-- At each time, outcomes in the order of time have together the events of the last one first. -/
theorem simultaneous_allAtOnce {parts : List Outcome}
    (hparts : ∀ part ∈ parts, part.events.Pairwise fun a b => inTime a b) (time : Rat) :
    simultaneous time (allAtOnce parts).events =
      simultaneous time (parts.reverse.flatMap events) := by
  induction parts using List.reverseRecOn with
  | nil => rfl
  | append_singleton parts last ih =>
    obtain ⟨hfirst, hlast⟩ := List.forall_mem_append.mp hparts
    have hlast := List.forall_mem_singleton.mp hlast
    rw [allAtOnce_append_singleton, List.reverse_append, List.reverse_singleton,
      List.singleton_append, List.flatMap_cons]
    calc simultaneous time (interleave (allAtOnce parts).events last.events)
        = simultaneous time last.events ++ simultaneous time (allAtOnce parts).events :=
          simultaneous_interleave hlast time
      _ = simultaneous time last.events ++ simultaneous time (parts.reverse.flatMap events) := by
          rw [ih hfirst]
      _ = simultaneous time (last.events ++ parts.reverse.flatMap events) :=
          (List.filter_append _ _).symm

/-- Outcomes in the order of time come together in it. -/
theorem pairwise_allAtOnce {parts : List Outcome}
    (hparts : ∀ part ∈ parts, part.events.Pairwise fun a b => inTime a b) :
    (allAtOnce parts).events.Pairwise fun a b => inTime a b := by
  induction parts using List.reverseRecOn with
  | nil => exact .nil
  | append_singleton parts last ih =>
    obtain ⟨hfirst, hlast⟩ := List.forall_mem_append.mp hparts
    have hlast := List.forall_mem_singleton.mp hlast
    rw [allAtOnce_append_singleton]
    exact List.pairwise_merge inTime_trans inTime_total last.events (allAtOnce parts).events
      hlast (ih hfirst)

/-- Outcomes in the order of time come together in their stable sort, the last one first. -/
theorem events_allAtOnce_eq_mergeSort {parts : List Outcome}
    (hparts : ∀ part ∈ parts, part.events.Pairwise fun a b => inTime a b) :
    (allAtOnce parts).events = (parts.reverse.flatMap events).mergeSort inTime := by
  refine eq_of_simultaneous (pairwise_allAtOnce hparts)
    (List.pairwise_mergeSort inTime_trans inTime_total _) fun time => ?_
  rw [simultaneous_allAtOnce hparts, simultaneous_mergeSort]

/-- Rearranged outcomes have together the same events. -/
theorem events_allAtOnce_perm_of_perm {parts parts' : List Outcome} (hperm : parts.Perm parts') :
    (allAtOnce parts).events.Perm (allAtOnce parts').events :=
  (events_allAtOnce_perm parts).trans
    ((hperm.flatMap_right events).trans (events_allAtOnce_perm parts').symm)

/-- Rearranged outcomes take together the same time. -/
theorem elapsed_allAtOnce_of_perm {parts parts' : List Outcome} (hperm : parts.Perm parts') :
    (allAtOnce parts).elapsed.value = (allAtOnce parts').elapsed.value := by
  rw [elapsed_allAtOnce, elapsed_allAtOnce]
  exact (hperm.map _).foldl_eq 0

end Outcome

/-- The same events in the order of time come at the same times. -/
theorem Performance.forall₂_time_of_perm {events events' : List Event}
    (hperm : events.Perm events') (hevents : events.Pairwise fun a b => inTime a b)
    (hevents' : events'.Pairwise fun a b => inTime a b) :
    List.Forall₂ (fun event event' => event.time.value = event'.time.value) events events' := by
  have hsorted {events : List Event} (hevents : events.Pairwise fun a b => inTime a b) :
      (events.map fun event => event.time.value).Pairwise (· ≤ ·) :=
    List.pairwise_map.mpr (hevents.imp inTime_iff.mp)
  have htimes := (hperm.map fun event => event.time.value).eq_of_pairwise
    (fun _ _ _ _ => le_antisymm) (hsorted hevents) (hsorted hevents')
  rwa [← List.forall₂_eq_eq_eq, List.forall₂_map_left_iff, List.forall₂_map_right_iff] at htimes

namespace Performs

variable {roster : Option Roster} {context : Context} {outcome : Outcome}

/-- Pieces that go on together with a first one perform when each of them does. -/
theorem foldl_par_iff (hcontext : context.Defined) {pieces : List (Music Payload)}
    {first : Music Payload} :
    Performs roster context (pieces.foldl .par first) outcome ↔
      ∃ start parts, Performs roster context first start ∧
        List.Forall₂ (Performs roster context) pieces parts ∧
        outcome = parts.foldl .atOnce start := by
  induction pieces generalizing first with
  | nil =>
    constructor
    · exact fun hfirst => ⟨outcome, [], hfirst, .nil, rfl⟩
    · rintro ⟨start, parts, hfirst, hparts, rfl⟩
      obtain rfl := List.forall₂_nil_left_iff.mp hparts
      exact hfirst
  | cons piece pieces ih =>
    rw [List.foldl_cons, ih]
    constructor
    · rintro ⟨_, parts, hboth, hparts, rfl⟩
      obtain ⟨start, part, hfirst, hpiece, rfl⟩ := (par_iff hcontext).mp hboth
      exact ⟨start, part :: parts, hfirst, .cons hpiece hparts, rfl⟩
    · rintro ⟨start, _, hfirst, hall, rfl⟩
      obtain ⟨part, parts, hpiece, hparts, rfl⟩ := List.forall₂_cons_left_iff.mp hall
      have hboth := (par_iff hcontext).mpr ⟨start, part, hfirst, hpiece, rfl⟩
      exact ⟨start.atOnce part, parts, hboth, hparts, rfl⟩

/-- A chord performs when each of its pieces does, with their outcomes together. -/
theorem chord_iff (hcontext : context.Defined) {pieces : List (Music Payload)} :
    Performs roster context (.chord pieces) outcome ↔
      ∃ parts, List.Forall₂ (Performs roster context) pieces parts ∧
        outcome = .allAtOnce parts := by
  rw [Music.chord, foldl_par_iff hcontext]
  constructor
  · rintro ⟨start, parts, hunit, hparts, rfl⟩
    obtain rfl := (unit_iff hcontext).mp hunit
    exact ⟨parts, hparts, rfl⟩
  · rintro ⟨parts, hparts, rfl⟩
    exact ⟨.silence, parts, (unit_iff hcontext).mpr rfl, hparts, rfl⟩

/-- A rearranged chord performs when the chord does, with the same events and in the same time. -/
theorem exists_chord_of_perm (hcontext : context.Defined) {pieces rearranged : List (Music Payload)}
    (hperm : pieces.Perm rearranged) (houtcome : Performs roster context (.chord pieces) outcome) :
    ∃ outcome', Performs roster context (.chord rearranged) outcome' ∧
      outcome.events.Perm outcome'.events ∧ outcome.elapsed = outcome'.elapsed := by
  obtain ⟨parts, hparts, rfl⟩ := (chord_iff hcontext).mp houtcome
  obtain ⟨parts', hparts', hpartsPerm⟩ := List.perm_comp_forall₂ hperm.symm hparts
  have houtcome' := (chord_iff hcontext).mpr ⟨parts', hparts', rfl⟩
  refine ⟨_, houtcome', Outcome.events_allAtOnce_perm_of_perm hpartsPerm.symm, ?_⟩
  exact houtcome.lowestTerms.elapsed.eq_of_value houtcome'.lowestTerms.elapsed
    (Outcome.elapsed_allAtOnce_of_perm hpartsPerm.symm)

/-- Pieces without negative lengths, performed forward, give their events in the order of time. -/
theorem forall_pairwise (hcontext : context.Forward) {pieces : List (Music Payload)}
    (hpieces : ∀ piece ∈ pieces, piece.EachLength Ratio.Forward ∧ piece.EachControl Control.Checked)
    {parts : List Outcome} (hparts : List.Forall₂ (Performs roster context) pieces parts) :
    ∀ part ∈ parts, part.events.Pairwise fun a b => inTime a b := by
  induction hparts with
  | nil => exact List.forall_mem_nil _
  | cons hpiece _ ih =>
    obtain ⟨⟨hlengths, hcontrols⟩, hrest⟩ := List.forall_mem_cons.mp hpieces
    have htimely := hpiece.timely hcontext hlengths hcontrols
    exact List.forall_mem_cons.mpr ⟨htimely.ordered.imp inTime_iff.mpr, ih hrest⟩

end Performs

/-- The order of the pieces of a chord does not matter. A rearranged chord performs when the chord
does, with the same events in some order and in the same time, which is the longest time of a piece,
or none. Where the pieces have no negative lengths and time runs forward, the events are the stable
sort of those of the pieces, the last piece first; so both performances have events at the same
times, and only events of one time may have changed places. -/
theorem chord_in_any_order {roster : Option Roster} {context : Context}
    (hcontext : context.Defined) {pieces rearranged : List (Music Payload)}
    (hperm : pieces.Perm rearranged) :
    ((∃ outcome, ((Music.chord pieces).perform roster context).result = .ok outcome) ↔
      ∃ outcome, ((Music.chord rearranged).perform roster context).result = .ok outcome) ∧
    ∀ outcome outcome' : Outcome,
      ((Music.chord pieces).perform roster context).result = .ok outcome →
      ((Music.chord rearranged).perform roster context).result = .ok outcome' →
      outcome.events.Perm outcome'.events ∧ outcome.elapsed = outcome'.elapsed ∧
      ∃ parts : List Outcome,
        List.Forall₂ (fun piece part => (piece.perform roster context).result = .ok part)
          pieces parts ∧
        outcome.elapsed = .ofValue ((parts.map fun part => part.elapsed.value).foldl max 0) ∧
        (0 ≤ context.lengthScale.value →
          (∀ piece ∈ pieces, piece.EachLength Ratio.Forward ∧ piece.EachControl Control.Checked) →
          outcome.events = (parts.reverse.flatMap Outcome.events).mergeSort inTime ∧
          List.Forall₂ (fun event event' => event.time.value = event'.time.value)
            outcome.events outcome'.events ∧
          ∀ time, (simultaneous time outcome.events).Perm
            (simultaneous time outcome'.events)) := by
  simp only [Music.perform_result_iff]
  refine ⟨⟨?_, ?_⟩, ?_⟩
  · rintro ⟨outcome, houtcome⟩
    obtain ⟨outcome', houtcome', _⟩ := houtcome.exists_chord_of_perm hcontext hperm
    exact ⟨outcome', houtcome'⟩
  · rintro ⟨outcome', houtcome'⟩
    obtain ⟨outcome, houtcome, _⟩ := houtcome'.exists_chord_of_perm hcontext hperm.symm
    exact ⟨outcome, houtcome⟩
  · intro outcome outcome' houtcome houtcome'
    obtain ⟨again, hagain, hevents, helapsed⟩ := houtcome.exists_chord_of_perm hcontext hperm
    obtain rfl : again = outcome' := hagain.unique houtcome'
    obtain ⟨parts, hparts, rfl⟩ := (Performs.chord_iff hcontext).mp houtcome
    refine ⟨hevents, helapsed, parts, hparts, ?_, fun hnonneg hpieces => ?_⟩
    · rw [← Outcome.elapsed_allAtOnce]
      exact houtcome.lowestTerms.elapsed.eq_ofValue
    · have hforward : context.Forward := ⟨hcontext, hnonneg⟩
      have hordered := Performs.forall_pairwise hforward hpieces hparts
      obtain ⟨parts', hparts', rfl⟩ := (Performs.chord_iff hcontext).mp houtcome'
      have hordered' := Performs.forall_pairwise hforward
        (fun piece hpiece => hpieces piece (hperm.mem_iff.mpr hpiece)) hparts'
      exact ⟨Outcome.events_allAtOnce_eq_mergeSort hordered,
        forall₂_time_of_perm hevents (Outcome.pairwise_allAtOnce hordered)
          (Outcome.pairwise_allAtOnce hordered'),
        fun time => hevents.filter _⟩

/-- A low voice, one of two notes and a high one. -/
def Performance.voices : List (Music Payload) := [
  .prim (.note ⟨1, 2⟩ (.pitch 48)),
  .seq (.prim (.note ⟨1, 4⟩ (.pitch 60))) (.prim (.note ⟨1, 4⟩ (.pitch 62))),
  .modify (.tempo ⟨2, 1⟩) (.prim (.note ⟨1, 1⟩ (.pitch 67)))]

/-- The voices from the lowest up and from the highest down: of the notes that start together, the
last voice comes first. -/
theorem voices_in_any_order :
    (Context.standard.Defined ∧ voices.Perm voices.reverse) ∧
    (0 ≤ Context.standard.lengthScale.value ∧
      ∀ piece ∈ voices, piece.EachLength Ratio.Forward ∧ piece.EachControl Control.Checked) ∧
    ∃ outcome outcome' : Outcome,
      ((Music.chord voices).perform none .standard).result = .ok outcome ∧
      ((Music.chord voices.reverse).perform none .standard).result = .ok outcome' ∧
      outcome.events.map Event.pitch = [67, 60, 48, 62] ∧
      outcome'.events.map Event.pitch = [48, 60, 67, 62] ∧
      outcome.events.Perm outcome'.events ∧ outcome.elapsed = outcome'.elapsed ∧
      List.Forall₂ (fun event event' => event.time.value = event'.time.value)
        outcome.events outcome'.events := by
  have hperm : voices.Perm voices.reverse := (List.reverse_perm voices).symm
  have hnonneg : 0 ≤ Context.standard.lengthScale.value := by decide +kernel
  have hpieces : ∀ piece ∈ voices,
      piece.EachLength Ratio.Forward ∧ piece.EachControl Control.Checked := by decide +kernel
  have hupward : (fun outcome : Outcome => outcome.events.map Event.pitch) <$>
      ((Music.chord voices).perform none .standard).result = .ok [67, 60, 48, 62] := by
    rw [Music.perform_eq_outcome]
    decide +kernel
  have hdownward : (fun outcome : Outcome => outcome.events.map Event.pitch) <$>
      ((Music.chord voices.reverse).perform none .standard).result = .ok [48, 60, 67, 62] := by
    rw [Music.perform_eq_outcome]
    decide +kernel
  obtain ⟨outcome, houtcome, hpitches⟩ := map_eq_ok_iff.mp hupward
  obtain ⟨outcome', houtcome', hpitches'⟩ := map_eq_ok_iff.mp hdownward
  obtain ⟨hevents, helapsed, _, _, _, hforward⟩ :=
    (chord_in_any_order Context.standard_defined hperm).2 outcome outcome' houtcome houtcome'
  exact ⟨⟨Context.standard_defined, hperm⟩, ⟨hnonneg, hpieces⟩, outcome, outcome', houtcome,
    houtcome', hpitches, hpitches', hevents, helapsed, (hforward hnonneg hpieces).2.1⟩

end Polyphony
