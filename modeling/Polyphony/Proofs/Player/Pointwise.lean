import Polyphony.Proofs.Music.Attribute
import Polyphony.Proofs.Player.Phrase

/-!
# Shaping event by event

Attributes other than ramps shape every event by itself, in the same way for every player. So a
phrase without ramps shapes the events of a line or a chord as it would shape those of the parts.
-/

namespace Polyphony

/-- What an attribute other than a ramp makes of an event. -/
def PhraseAttribute.shape (attr : PhraseAttribute) (event : Event) : Except Fault Event :=
  match attr with
  | accent amount => do
    return { event with volume := ← Player.accentedVolume amount event.volume }
  | staccato amount | legato amount => do
    return { event with duration := ← event.duration.mul amount }
  | crescendo _ | diminuendo _ => pure event

/-- What attributes other than ramps make of an event, from the last to the first. -/
def PhraseAttribute.shapeAll (attributes : List PhraseAttribute) (event : Event) :
    Except Fault Event :=
  match attributes with
  | [] => pure event
  | attr :: attributes => shapeAll attributes event >>= attr.shape

namespace PhraseAttribute

/-- The time of an event is not shaped. -/
theorem time_of_shape {attr : PhraseAttribute} {event shaped : Event}
    (hshape : attr.shape event = .ok shaped) : shaped.time = event.time := by
  cases attr with
  | accent amount =>
    obtain ⟨volume, _, rfl⟩ := by simpa [shape] using hshape
    rfl
  | staccato amount | legato amount =>
    obtain ⟨duration, _, rfl⟩ := by simpa [shape] using hshape
    rfl
  | crescendo amount | diminuendo amount =>
    obtain rfl := pure_eq_ok_iff.mp hshape
    rfl

theorem time_of_shapeAll {attributes : List PhraseAttribute} {event shaped : Event}
    (hshape : shapeAll attributes event = .ok shaped) : shaped.time = event.time := by
  induction attributes generalizing shaped with
  | nil =>
    obtain rfl := pure_eq_ok_iff.mp hshape
    rfl
  | cons attr attributes ih =>
    obtain ⟨between, hbetween, hlast⟩ := bind_eq_ok_iff.mp hshape
    rw [time_of_shape hlast, ih hbetween]

end PhraseAttribute

namespace Player

/-- An attribute other than a ramp is applied event by event. -/
theorem applyPhraseAttribute_eq_mapM (player : Player) (elapsed : Ratio) (events : List Event)
    {attr : PhraseAttribute} (hsteady : ¬ attr.Ramp) :
    player.applyPhraseAttribute elapsed events attr = events.mapM attr.shape := by
  cases attr with
  | crescendo amount | diminuendo amount => exact absurd trivial hsteady
  | _ => rfl

/-- Attributes other than ramps are applied event by event. -/
theorem applyPhraseAttributes_eq_ok_iff {player : Player} {elapsed : Ratio}
    {attributes : List PhraseAttribute} {events shaped : List Event}
    (hsteady : ∀ attr ∈ attributes, ¬ attr.Ramp) :
    player.applyPhraseAttributes elapsed events attributes = .ok shaped ↔
      events.mapM (PhraseAttribute.shapeAll attributes) = .ok shaped := by
  induction attributes generalizing shaped with
  | nil =>
    have hpure : events.mapM (PhraseAttribute.shapeAll []) = .ok events := by
      rw [mapM_eq_ok_iff, List.forall₂_same]
      exact fun _ _ => rfl
    rw [hpure]
    rfl
  | cons attr attributes ih =>
    obtain ⟨hattr, hrest⟩ := List.forall_mem_cons.mp hsteady
    have hlast (between : List Event) := applyPhraseAttribute_eq_mapM player elapsed between hattr
    simp only [applyPhraseAttributes, PhraseAttribute.shapeAll, bind_eq_ok_iff, hlast, ih hrest,
      mapM_bind_eq_ok_iff]

end Player

end Polyphony
