import Polyphony.Performance.Recursive
import Polyphony.Proofs.Performance.Ensemble

/-!
# The work list with a roster

The players of a roster answer as an ensemble whose phrases start work lists of their own, in the
room that is left to them. Working through a list of steps is taking one turn after another with
this ensemble. So on a stack without a limit a piece is performed as its outcome by recursion says,
journal and faults included, however deep its phrases are nested.
-/

namespace Polyphony

/-- Under any control but a phrase, a piece has the outcome of its body under the derived
context. -/
theorem Music.outcome_modify (roster : Option Roster) (context : Context) {control : Control}
    (hphrase : ∀ attributes, control ≠ .phrase attributes) (body : Music Payload) :
    (modify control body).outcome roster context =
      context.under roster control >>= fun inner => body.outcome roster inner := by
  cases control with
  | phrase attributes => exact absurd rfl (hphrase attributes)
  | _ => rfl

namespace Ensemble

/-- The players of a roster, with a room for nested phrases. A phrase is performed by a work list of
its own. -/
def within (room : Option Nat) (roster : Option Roster) : Ensemble Journaled where
  note context length payload := do
    Recorded.enter (.note context length payload)
    let event ← Player.playNote context length payload
    return [event]
  phrase context attributes body :=
    Outcome.phrase roster context attributes do
      Performance.run roster (← Performance.innerRoom room) [.perform context body] []
  control := Context.under roster

/-- The players of a roster, phrases being nested as deep as they may be. -/
def ofRoster (roster : Option Roster) : Ensemble Journaled := within none roster

theorem leaf_within (room : Option Nat) (roster : Option Roster) (context : Context)
    (primitive : Primitive Payload) :
    (within room roster).leaf context primitive = Outcome.ofPrimitive context primitive := by
  cases primitive <;> simp [leaf, within, Outcome.ofPrimitive]

/-- Without a limit, the body of a phrase is performed as any piece is. -/
theorem phrase_ofRoster (roster : Option Roster) (context : Context)
    (attributes : List PhraseAttribute) (body : Music Payload) :
    (ofRoster roster).phrase context attributes body =
      Outcome.phrase roster context attributes (body.perform roster context) := rfl

/-- Where phrases are performed as the recursion says, so is every piece. -/
theorem outcome_ofRoster {roster : Option Roster}
    (hperform : ∀ context piece,
      Music.perform roster context piece = (ofRoster roster).outcome context piece)
    (context : Context) (piece : Music Payload) :
    (ofRoster roster).outcome context piece = piece.outcome roster context := by
  induction piece generalizing context with
  | prim primitive => exact leaf_within none roster context primitive
  | seq left right ihleft ihright => simp [outcome, Music.outcome, ihleft, ihright]
  | par left right ihleft ihright => simp [outcome, Music.outcome, ihleft, ihright]
  | modify control body ih =>
    obtain ⟨attributes, rfl⟩ | hphrase := control.phrase_or_other
    · have hbody : body.perform roster context = body.outcome roster context :=
        (hperform context body).trans (ih context)
      rw [outcome, phrase_ofRoster, hbody, Music.outcome]
    · rw [outcome_modify _ context hphrase, Music.outcome_modify roster context hphrase]
      exact bind_congr ih
  | stray number => rfl

end Ensemble

namespace Performance.State

/-- Works through the steps that are left, with a room for nested phrases. -/
def finishWithin (room : Option Nat) (roster : Option Roster) (state : State) :
    Journaled Outcome :=
  run roster room state.steps state.outcomes

/-- Works through the steps that are left, phrases being nested as deep as they may be. -/
def finish (roster : Option Roster) : State → Journaled Outcome := finishWithin none roster

variable (room : Option Nat) (roster : Option Roster)

/-- Working through a state begins with its next turn. -/
theorem finishWithin_turn (state : State) :
    state.finishWithin room roster =
      state.turn (.within room roster) >>= finishWithin room roster := by
  fun_cases turn (.within room roster) state with
  | case1 outcomes => simp [finishWithin]
  | case2 context primitive steps outcomes => simp [finishWithin, run, Ensemble.leaf_within]
  | case3 context left right steps outcomes => simp [finishWithin, run]
  | case4 context left right steps outcomes => simp [finishWithin, run]
  | case5 context attributes body steps outcomes => simp [finishWithin, run, Ensemble.within]
  | case6 context control body steps outcomes hphrase =>
    simp [finishWithin, run, Ensemble.within]
  | case7 context number steps outcomes => simp [finishWithin, run]
  | case8 context right steps left outcomes => simp [finishWithin, run]
  | case9 steps right left outcomes => simp [finishWithin, run]
  | case10 steps right left outcomes => simp [finishWithin, run]
  | case11 => simp [finishWithin, run]

/-- Working through a state may begin with any number of turns. -/
theorem finishWithin_advance (count : Nat) (state : State) :
    state.finishWithin room roster =
      state.advance (.within room roster) count >>= finishWithin room roster := by
  induction count generalizing state with
  | zero => simp [advance]
  | succ count ih =>
    rw [finishWithin_turn]
    simp only [advance, bind_assoc, ← ih]

end Performance.State

namespace Music

open Performance State

/-- A work list with a piece to perform comes to what the recursion with the players of the roster
says, in any room. -/
theorem run_perform (room : Option Nat) (roster : Option Roster) (context : Context)
    (piece : Music Payload) :
    run roster room [.perform context piece] [] =
      (Ensemble.within room roster).outcome context piece := by
  calc run roster room [.perform context piece] []
      = (initial context piece).finishWithin room roster := rfl
    _ = (initial context piece).advance (.within room roster) piece.turns >>=
        State.finishWithin room roster :=
      finishWithin_advance room roster piece.turns _
    _ = (Ensemble.within room roster).outcome context piece := by
      simp [advance_initial, finishWithin, finished, run]

/-- A piece is performed as the recursion with the players of the roster says. -/
theorem perform_eq_ofRoster (roster : Option Roster) (context : Context)
    (piece : Music Payload) :
    piece.perform roster context = (Ensemble.ofRoster roster).outcome context piece :=
  run_perform none roster context piece

/-- A piece is performed as its outcome by recursion says, with the same journal. -/
theorem perform_eq_outcome (roster : Option Roster) (context : Context)
    (piece : Music Payload) : piece.perform roster context = piece.outcome roster context := by
  rw [perform_eq_ofRoster]
  exact Ensemble.outcome_ofRoster (perform_eq_ofRoster roster) context piece

end Music

end Polyphony
