import Polyphony.Proofs.Performance.Derivation
import Polyphony.Proofs.Performance.Interleave
import Polyphony.Proofs.Player.Phrase

/-!
# Pieces without their phrases

What phrases do to a performance can be told by leaving them out. The piece without them takes the
same time and has the same events in the same order, up to volumes and durations: times and cores
decide how outcomes are joined, and no phrase changes either.
-/

namespace Polyphony

namespace Music

variable {α : Type}

/-- The piece with the body of every phrase in the place of the phrase. -/
def unphrased : Music α → Music α
  | prim primitive => prim primitive
  | seq left right => seq left.unphrased right.unphrased
  | par left right => par left.unphrased right.unphrased
  | modify (.phrase _) body => body.unphrased
  | modify control body => modify control body.unphrased
  | stray number => stray number

theorem unphrased_modify {control : Control} (hphrase : ∀ attributes, control ≠ .phrase attributes)
    (body : Music α) : (modify control body).unphrased = modify control body.unphrased := by
  cases control with
  | phrase attributes => exact absurd rfl (hphrase attributes)
  | _ => rfl

end Music

/-- An event and what reshaping by phrases made of it. -/
def Event.Reshaped (event shaped : Event) : Prop :=
  shaped = { event with volume := shaped.volume, duration := shaped.duration }

/-- Events with one core differ in what phrases reshape. -/
theorem Event.reshaped_of_core {event shaped : Event} (hcore : event.core = shaped.core) :
    event.Reshaped shaped := by
  obtain ⟨time, pitch, volume, length, duration, channel, on, params⟩ := event
  obtain ⟨time', pitch', volume', length', duration', channel', on', params'⟩ := shaped
  simp only [core, mk.injEq] at hcore
  simp only [Reshaped, hcore]

namespace Outcome

/-- An outcome without what phrases may reshape. -/
def core (outcome : Outcome) : Outcome := ⟨outcome.events.map Event.core, outcome.elapsed⟩

variable {left left' right right' outcome : Outcome}

theorem core_eq_iff : left.core = right.core ↔
    left.events.map Event.core = right.events.map Event.core ∧ left.elapsed = right.elapsed := by
  rw [core, core, mk.injEq]

theorem core_followedBy (left right : Outcome) :
    left.core.followedBy right.core = core <$> left.followedBy right :=
  followedBy_recast Event.core left right

theorem core_together (left right : Outcome) :
    left.core.together right.core = core <$> left.together right :=
  together_recast (f := Event.core) (fun _ => rfl) left right

/-- Where joining commutes with taking cores, outcomes with the cores of others are joined to one with
the core of theirs. -/
theorem exists_join_of_core {join : Outcome → Outcome → Except Fault Outcome}
    (hjoin : ∀ left right, join left.core right.core = core <$> join left right)
    (hleft : left'.core = left.core) (hright : right'.core = right.core)
    (hok : join left right = .ok outcome) :
    ∃ outcome', join left' right' = .ok outcome' ∧ outcome'.core = outcome.core := by
  have hcore : core <$> join left' right' = .ok outcome.core := by
    rw [← hjoin, hleft, hright, hjoin, hok]
    rfl
  exact map_eq_ok_iff.mp hcore

end Outcome

/-- Without its phrases, a piece performs whenever it does with them, to an outcome with the same
core. -/
theorem Performs.unphrased {players : Roster} {context : Context} {piece : Music Payload}
    {outcome : Outcome} (hperforms : Performs (some players) context piece outcome) :
    ∃ plain, Performs (some players) context piece.unphrased plain ∧
      plain.core = outcome.core := by
  induction hperforms with
  | note helapsed hevent => exact ⟨_, .note helapsed hevent, rfl⟩
  | rest helapsed => exact ⟨_, .rest helapsed, rfl⟩
  | seq hleft hlater hright hjoin ihleft ihright =>
    obtain ⟨l, hl, hlCore⟩ := ihleft
    obtain ⟨r, hr, hrCore⟩ := ihright
    rw [← (Outcome.core_eq_iff.mp hlCore).2] at hlater
    obtain ⟨plain, hplain, hcore⟩ :=
      Outcome.exists_join_of_core Outcome.core_followedBy hlCore hrCore hjoin
    exact ⟨plain, .seq hl hlater hr hplain, hcore⟩
  | par hleft hright hjoin ihleft ihright =>
    obtain ⟨l, hl, hlCore⟩ := ihleft
    obtain ⟨r, hr, hrCore⟩ := ihright
    obtain ⟨plain, hplain, hcore⟩ :=
      Outcome.exists_join_of_core Outcome.core_together hlCore hrCore hjoin
    exact ⟨plain, .par hl hr hplain, hcore⟩
  | phrase hroster hbody hshaped ih =>
    obtain ⟨plain, hplain, hcore⟩ := ih
    obtain ⟨hevents, helapsed⟩ := Outcome.core_eq_iff.mp hcore
    have hkept := Player.map_core_of_applyPhraseAttributes hshaped
    exact ⟨plain, hplain, Outcome.core_eq_iff.mpr ⟨hevents.trans hkept.symm, helapsed⟩⟩
  | silence hroster => exact absurd hroster (Option.some_ne_none players)
  | modify hphrase hunder hbody ih =>
    obtain ⟨plain, hplain, hcore⟩ := ih
    rw [Music.unphrased_modify hphrase]
    exact ⟨plain, .modify hphrase hunder hplain, hcore⟩

/-- Phrases reshape only volumes and durations. Where players come from a roster and a piece performs,
it performs without its phrases too, in the same time and with as many events, each of which differs
from the event in its place at most in volume and duration. -/
theorem perform_unphrased {players : Roster} {context : Context} {piece : Music Payload}
    {outcome : Outcome} (hok : (piece.perform (some players) context).result = .ok outcome) :
    ∃ plain, (piece.unphrased.perform (some players) context).result = .ok plain ∧
      plain.elapsed = outcome.elapsed ∧
      List.Forall₂ Event.Reshaped plain.events outcome.events := by
  obtain ⟨plain, hplain, hcore⟩ := (Music.perform_result_iff.mp hok).unphrased
  obtain ⟨hevents, helapsed⟩ := Outcome.core_eq_iff.mp hcore
  have hcores : List.Forall₂ (fun event shaped => event.core = shaped.core) plain.events
      outcome.events := by
    rwa [← List.forall₂_eq_eq_eq, List.forall₂_map_left_iff, List.forall₂_map_right_iff] at hevents
  exact ⟨plain, Music.perform_result_iff.mpr hplain, helapsed,
    hcores.imp fun _ _ => Event.reshaped_of_core⟩

open Performance in
/-- The specimen without its accent and its crescendo. -/
theorem specimen_unphrased :
    (specimen.perform (some .standard) .standard).result = .ok specimenOutcome ∧
    ∃ plain, (specimen.unphrased.perform (some .standard) .standard).result = .ok plain ∧
      plain.elapsed = ⟨1, 1⟩ ∧
      List.Forall₂ Event.Reshaped plain.events specimenOutcome.events :=
  ⟨perform_specimen, perform_unphrased perform_specimen⟩

end Polyphony
