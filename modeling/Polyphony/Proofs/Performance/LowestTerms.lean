import Polyphony.Proofs.Performance.Derivation
import Polyphony.Proofs.Performance.Interleave
import Polyphony.Proofs.Player.Note
import Polyphony.Proofs.Player.Phrase

/-!
# Lowest terms in a performance

The time that a piece takes, and the lengths and durations of its events, come out of a calculation
and so are in lowest terms, however the piece and its context are written. Only the times of events
may be written as the context has them.
-/

namespace Polyphony

/-- The ratios that a performance calculates are in lowest terms. -/
structure Outcome.LowestTerms (outcome : Outcome) : Prop where
  /-- The time that the piece took. -/
  elapsed : outcome.elapsed.LowestTerms
  /-- The lengths of the events. -/
  lengths : ∀ event ∈ outcome.events, event.length.LowestTerms
  /-- The durations of the events. -/
  durations : ∀ event ∈ outcome.events, event.duration.LowestTerms

/-- Every performance calculates in lowest terms. -/
theorem Performs.lowestTerms {roster : Option Roster} {context : Context} {piece : Music Payload}
    {outcome : Outcome} (hperforms : Performs roster context piece outcome) :
    outcome.LowestTerms := by
  induction hperforms with
  | note helapsed hevent =>
    obtain ⟨_, _, rfl⟩ := Ratio.mul_eq_ok_iff.mp helapsed
    obtain ⟨_, _, _, rfl⟩ := Player.playNote_eq_ok_iff.mp hevent
    refine ⟨Ratio.ofValue_lowestTerms _, ?_, ?_⟩
    · exact List.forall_mem_singleton.mpr (Ratio.ofValue_lowestTerms _)
    · exact List.forall_mem_singleton.mpr (Ratio.ofValue_lowestTerms _)
  | rest helapsed =>
    obtain ⟨_, _, rfl⟩ := Ratio.mul_eq_ok_iff.mp helapsed
    exact ⟨Ratio.ofValue_lowestTerms _, List.forall_mem_nil _, List.forall_mem_nil _⟩
  | seq hleft hlater hright hjoin ihleft ihright =>
    obtain ⟨_, _, rfl⟩ := Outcome.followedBy_eq_ok_iff.mp hjoin
    refine ⟨Ratio.ofValue_lowestTerms _, ?_, ?_⟩
    · exact List.forall_mem_append.mpr ⟨ihleft.lengths, ihright.lengths⟩
    · exact List.forall_mem_append.mpr ⟨ihleft.durations, ihright.durations⟩
  | par hleft hright hjoin ihleft ihright =>
    obtain rfl := Outcome.eq_of_together hjoin
    refine ⟨?_, ?_, ?_⟩
    · dsimp only
      split
      · exact ihright.elapsed
      · exact ihleft.elapsed
    · exact Performance.forall_mem_interleave ihleft.lengths ihright.lengths
    · exact Performance.forall_mem_interleave ihleft.durations ihright.durations
  | phrase hroster hbody hshaped ih =>
    have hcore := Player.map_core_of_applyPhraseAttributes hshaped
    refine ⟨ih.elapsed, Event.forall_mem_of_map_core hcore (fun _ => Iff.rfl) ih.lengths, ?_⟩
    refine Player.forall_mem_of_applyPhraseAttributes (fun _ _ hlowest => hlowest) ?_ hshaped
      ih.durations
    intro event amount duration _ hmul
    obtain ⟨_, _, rfl⟩ := Ratio.mul_eq_ok_iff.mp hmul
    exact Ratio.ofValue_lowestTerms _
  | silence hroster =>
    exact ⟨Ratio.ofValue_lowestTerms 0, List.forall_mem_nil _, List.forall_mem_nil _⟩
  | modify hphrase hunder hbody ih => exact ih

end Polyphony
