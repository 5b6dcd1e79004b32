import Polyphony.Proofs.Journal.Echoes
import Polyphony.Proofs.Music.Map
import Polyphony.Proofs.Performance.Interleave
import Polyphony.Proofs.Performance.Machine

/-!
# Performances in another cast

A recasting changes contexts and, with them, events, but neither what decides when events come nor
what phrases make of them. If it fits the notes of a piece, one by one, it fits the whole piece:
in the changed context it performs with the changed events or the same fault, and with one log.
-/

namespace Polyphony

namespace Outcome

variable {α : Type} {f g : α → Payload} {change : Event → Event} {context context' : Context}

/-- A leaf echoes another when written lengths take as long and its note is the changed one. -/
theorem ofPrimitive_echoes (hscale : context'.lengthScale = context.lengthScale)
    (hnote : ∀ length payload, Player.playNote context' length (g payload) =
      change <$> Player.playNote context length (f payload))
    (primitive : Primitive α) :
    Echoes (recast change) (ofPrimitive context (primitive.map f))
      (ofPrimitive context' (primitive.map g)) := by
  unfold ofPrimitive
  rw [Primitive.length_map, Primitive.length_map, hscale]
  refine .bind (.lift (id_map _).symm) fun elapsed => ?_
  cases primitive with
  | note length payload =>
    refine .bind (.enter nofun nofun) fun _ => ?_
    exact .bind (.lift (hnote length payload)) fun event => .pure rfl
  | rest length => exact .pure rfl

/-- A phrase echoes another when its body does and the players shape the events alike, up to their
change. -/
theorem phrase_echoes (roster : Option Roster) {attributes : List PhraseAttribute}
    (hshape : ∀ elapsed events,
      context'.player.applyPhraseAttributes elapsed (events.map change) attributes =
        List.map change <$> context.player.applyPhraseAttributes elapsed events attributes)
    {body body' : Journaled Outcome} (hbody : Echoes (recast change) body body') :
    Echoes (recast change) (phrase roster context attributes body)
      (phrase roster context' attributes body') := by
  refine .bind (.enter nofun nofun) fun _ => ?_
  cases roster with
  | none => exact .pure rfl
  | some players =>
    refine hbody.bind fun outcome => ?_
    exact .bind (.lift (hshape outcome.elapsed outcome.events)) fun events => .pure rfl

end Outcome

/-- A change of contexts with a change of events that goes with it. -/
structure Recasting where
  /-- The change of contexts. -/
  context : Context → Context
  /-- The change of events. -/
  event : Event → Event
  /-- A context may be changed before or after the time goes on. -/
  advanced (start : Context) (elapsed : Ratio) :
    (context start).advanced elapsed = context <$> start.advanced elapsed
  /-- A context may be changed above or below a control. -/
  under (roster : Option Roster) (start : Context) (control : Control) :
    (context start).under roster control = context <$> start.under roster control
  /-- Written lengths take as long as before. -/
  lengthScale (start : Context) : (context start).lengthScale = start.lengthScale
  /-- Phrases have the same player. -/
  player (start : Context) : (context start).player = start.player
  /-- Events keep their times. -/
  time (sound : Event) : (event sound).time = sound.time
  /-- Events may be changed before or after a phrase shapes them. -/
  shape (player : Player) (elapsed : Ratio) (events : List Event)
      (attributes : List PhraseAttribute) :
    player.applyPhraseAttributes elapsed (events.map event) attributes =
      List.map event <$> player.applyPhraseAttributes elapsed events attributes

namespace Recasting

variable {α : Type} {f g : α → Payload}

/-- The recasting fits notes: a note with the second payload in the changed context is the changed
event of the note with the first one. -/
def Fits (recasting : Recasting) (f g : α → Payload) : Prop :=
  ∀ (context : Context) (length : Ratio) (payload : α),
    Player.playNote (recasting.context context) length (g payload) =
      recasting.event <$> Player.playNote context length (f payload)

/-- A leaf is recast. -/
theorem Fits.leaf {recasting : Recasting} (hfits : recasting.Fits f g) (context : Context)
    (primitive : Primitive α) :
    Echoes (Outcome.recast recasting.event) (Outcome.ofPrimitive context (primitive.map f))
      (Outcome.ofPrimitive (recasting.context context) (primitive.map g)) :=
  Outcome.ofPrimitive_echoes (recasting.lengthScale context) (hfits context) primitive

/-- A phrase is recast with its body. -/
theorem phrase (recasting : Recasting) (roster : Option Roster) (context : Context)
    (attributes : List PhraseAttribute) {body body' : Journaled Outcome}
    (hbody : Echoes (Outcome.recast recasting.event) body body') :
    Echoes (Outcome.recast recasting.event) (Outcome.phrase roster context attributes body)
      (Outcome.phrase roster (recasting.context context) attributes body') := by
  refine Outcome.phrase_echoes roster (fun elapsed events => ?_) hbody
  rw [recasting.player]
  exact recasting.shape context.player elapsed events attributes

/-- A piece is recast when its notes are. -/
theorem Fits.outcome {recasting : Recasting} (hfits : recasting.Fits f g)
    (roster : Option Roster) (context : Context) (piece : Music α) :
    Echoes (Outcome.recast recasting.event) ((piece.mapped f).outcome roster context)
      ((piece.mapped g).outcome roster (recasting.context context)) := by
  induction piece generalizing context with
  | prim primitive => exact hfits.leaf context primitive
  | seq left right ihleft ihright =>
    refine (ihleft context).bind fun l => ?_
    refine .bind (.lift (recasting.advanced context l.elapsed)) fun later => ?_
    exact (ihright later).bind fun r => .lift (Outcome.followedBy_recast recasting.event l r)
  | par left right ihleft ihright =>
    refine (ihleft context).bind fun l => (ihright context).bind fun r => ?_
    exact .lift (Outcome.together_recast recasting.time l r)
  | modify control body ih =>
    obtain ⟨attributes, rfl⟩ | hphrase := control.phrase_or_other
    · exact recasting.phrase roster context attributes (ih context)
    · -- The control may fail, or ask for a player, in both contexts alike.
      simp only [Music.mapped, Music.outcome_modify _ _ hphrase, recasting.under]
      exact (Echoes.map recasting.context _).bind ih
  | stray number => exact .throw _ _

end Recasting

end Polyphony
