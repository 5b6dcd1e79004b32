import Polyphony.Music.Build
import Polyphony.Proofs.Performance.Derived
import Polyphony.Proofs.Performance.Recasting
import Polyphony.Proofs.Player.Note
import Polyphony.Proofs.Player.Unnoticed

/-!
# Three ways to transpose

A piece may be transposed note by note, by a control above it or in the context. Pitches are only
ever added to, and nothing but the pitch of an event depends on them. So however deep the piece is
nested, each way raises every event by the same steps and changes nothing else.
-/

namespace Polyphony

/-- The event some semitones higher. -/
def Event.transposed (steps : Int) (event : Event) : Event :=
  { event with pitch := event.pitch + steps }

/-- Phrases do not look at pitches. -/
theorem Event.transposed_unnoticed (steps : Int) : Event.Unnoticed (Event.transposed steps) where
  time _ := rfl
  volume _ := rfl
  duration _ := rfl
  withVolume _ _ := rfl
  withDuration _ _ := rfl

@[simp] theorem Context.transposed_zero (context : Context) : context.transposed 0 = context := by
  rw [transposed, Int.add_zero]

/-- It does not matter which of two transpositions comes first. -/
theorem Context.transposed_comm (context : Context) (first second : Int) :
    (context.transposed first).transposed second =
      (context.transposed second).transposed first := by
  simp only [transposed, Int.add_right_comm]

/-- Contexts some semitones higher, with events that are as many semitones higher as is asked
for. -/
def Recasting.transposition (inContext inEvents : Int) : Recasting where
  context context := context.transposed inContext
  event := Event.transposed inEvents
  advanced start elapsed :=
    Context.advanced_change (·.transposed inContext) start rfl (fun _ => rfl) elapsed
  under roster start control := by
    cases control with
    | tempo ratio =>
      exact Context.under_tempo_change (·.transposed inContext) start rfl rfl (fun _ _ => rfl)
        roster ratio
    | custom directive =>
      exact Context.directed_change (·.transposed inContext) start rfl (fun _ => rfl) roster
        directive
    | transpose steps => exact congrArg pure (start.transposed_comm inContext steps)
    | _ => rfl
  lengthScale _ := rfl
  player _ := rfl
  time _ := rfl
  shape player elapsed events attributes :=
    player.applyPhraseAttributes_map (Event.transposed_unnoticed inEvents) elapsed events attributes

/-- What the context adds to the pitches of notes may be made up for by the notes. -/
theorem Recasting.transposition_fits {α : Type} {f g : α → Payload} {inContext inEvents : Int}
    (hpitch : ∀ payload, inContext + (g payload).basePitch = (f payload).basePitch + inEvents)
    (hattributes : ∀ payload, (g payload).attributes = (f payload).attributes) :
    (Recasting.transposition inContext inEvents).Fits f g := by
  intro context length payload
  have hraised : context.pitch + inContext + (g payload).basePitch =
      context.pitch + (f payload).basePitch + inEvents := by
    have hnote := hpitch payload
    omega
  simp only [Player.playNote, transposition, Context.transposed, hattributes, hraised,
    Player.applyNoteAttributes_eq]
  cases context.lengthScale.mul length with
  | error fault => rfl
  | ok scaled => cases context.durationScale.mul length <;> rfl

/-- A piece under a transposition performs like its body in the transposed context. -/
theorem Music.outcome_transpose (roster : Option Roster) (context : Context) (steps : Int)
    (body : Music Payload) :
    (body.transpose steps).outcome roster context =
      body.outcome roster (context.transposed steps) := by
  exact pure_bind (context.transposed steps) _

/-- A piece with raised pitches, in a context that is raised by what they lack, is performed like
the plain one, with every event as much higher as both come to. -/
theorem Session.perform_transposed (session : Session) (context : Context) (piece : Music Int)
    (inContext inNotes : Int) :
    session.perform (context.transposed inContext) (piece.mapped (Payload.pitch ∘ (· + inNotes))) =
      { session.perform context (piece.mapped .pitch) with
        result := Outcome.recast (Event.transposed (inContext + inNotes)) <$>
          (session.perform context (piece.mapped .pitch)).result } := by
  have hfits : (Recasting.transposition inContext (inContext + inNotes)).Fits Payload.pitch
      (Payload.pitch ∘ (· + inNotes)) := by
    refine Recasting.transposition_fits (fun p => ?_) fun _ => rfl
    change inContext + (p + inNotes) = p + (inContext + inNotes)
    omega
  have hechoes := hfits.outcome session.roster context piece
  simp only [perform, Music.perform_eq_outcome]
  exact hechoes.report_eq_change session

/-- Three ways to transpose agree. Raising every pitch, a control above the piece and a transposed
context leave the same report of a performance, with any roster or none: the events of the piece, in
the same order and time, each higher by the steps and otherwise as it was, or the fault of the
piece, and its log. -/
theorem transposed_three_ways (session : Session) (context : Context) {piece : Music Int}
    (steps : Int) (hwhole : piece.Whole) :
    ∃ plain raised, piece.map .pitch = .ok plain ∧
      (piece.map (· + steps) >>= fun higher => higher.map .pitch) = .ok raised ∧
      session.perform context raised = session.perform (context.transposed steps) plain ∧
      session.perform context (plain.transpose steps) =
        session.perform (context.transposed steps) plain ∧
      session.perform (context.transposed steps) plain =
        { session.perform context plain with
          result := Outcome.recast (Event.transposed steps) <$>
            (session.perform context plain).result } := by
  have hraised : (piece.map (· + steps) >>= fun higher => higher.map .pitch) =
      .ok (piece.mapped (Payload.pitch ∘ (· + steps))) := by
    rw [Music.map_bind_map, hwhole.map_eq]
  have hnotes := session.perform_transposed context piece 0 steps
  have hcontext := session.perform_transposed context piece steps 0
  rw [Context.transposed_zero, Int.zero_add] at hnotes
  have hnothing : Payload.pitch ∘ (· + (0 : Int)) = Payload.pitch := by
    funext p
    exact congrArg Payload.pitch (Int.add_zero p)
  rw [hnothing, Int.add_zero] at hcontext
  refine ⟨_, _, hwhole.map_eq _, hraised, hnotes.trans hcontext.symm, ?_, hcontext⟩
  rw [Session.perform, Session.perform, Music.perform_eq_outcome, Music.perform_eq_outcome,
    Music.outcome_transpose]

/-- A transposed melody that rises for a fancy player, over an accented bass for a player nobody
knows. -/
def Performance.canon : Music Int :=
  .par
    (.modify (.custom "player Fancy")
      (.modify (.phrase [.crescendo .one])
        (.modify (.transpose 12) (.seq (.prim (.note ⟨1, 4⟩ 60)) (.prim (.note ⟨1, 4⟩ 64))))))
    (.modify (.custom "player Nobody")
      (.modify (.phrase [.accent ⟨3, 4⟩]) (.prim (.note ⟨1, 2⟩ 48))))

open Performance in
/-- Seven semitones are added to the twelve of the inner transposition, under a crescendo and under
an accent, and the volumes are what they were. -/
theorem canon_three_ways :
    canon.Whole ∧
    ∃ plain raised, canon.map .pitch = .ok plain ∧
      (canon.map (· + 7) >>= fun higher => higher.map .pitch) = .ok raised ∧
      (Session.start (some .standard)).perform .standard raised =
        (Session.start (some .standard)).perform (Context.standard.transposed 7) plain ∧
      (Session.start (some .standard)).perform .standard (plain.transpose 7) =
        (Session.start (some .standard)).perform (Context.standard.transposed 7) plain ∧
      (fun outcome : Outcome => outcome.events.map fun event => (event.pitch, event.volume)) <$>
        ((Session.start (some .standard)).perform .standard raised).result =
          .ok [(55, 95), (79, 127), (83, 190)] := by
  have hwhole : canon.Whole := by decide
  obtain ⟨plain, raised, hplain, hraised, hnotes, hcontrol, hchange⟩ :=
    transposed_three_ways (.start (some .standard)) .standard 7 hwhole
  have hevents : (fun outcome : Outcome => outcome.events.map fun event =>
      (event.pitch, event.volume)) <$>
        ((Session.start (some .standard)).perform (Context.standard.transposed 7)
          (canon.mapped .pitch)).result = .ok [(55, 95), (79, 127), (83, 190)] := by
    rw [Session.perform, Music.perform_eq_outcome]
    decide +kernel
  obtain rfl := Except.ok.inj ((hwhole.map_eq Payload.pitch).symm.trans hplain)
  refine ⟨hwhole, _, raised, hplain, hraised, hnotes, hcontrol, ?_⟩
  rw [hnotes, hevents]

end Polyphony
