import Polyphony.Performance.Worklist
import Polyphony.Proofs.Journal.Lawful
import Polyphony.Proofs.Music.Control

/-!
# The work list with any players

What stands behind the players and the roster does not matter to the work list. With any answers to
notes, phrases and controls, in any monad whose faults leave out what follows, a piece is worked off
in a number of turns that its tree alone fixes, and leaves what the recursion on the tree gives: the
same calls in the same order, up to the first fault.
-/

namespace Polyphony

namespace Music

variable {α : Type}

/-- The turns that working off a piece takes when none of them fails. A phrase takes one, for it is
left to its player. -/
def turns : Music α → Nat
  | prim _ => 1
  | seq left right => left.turns + right.turns + 3
  | par left right => left.turns + right.turns + 2
  | modify (.phrase _) _ => 1
  | modify _ body => body.turns + 1
  | stray _ => 1

theorem turns_modify {control : Control} (hphrase : ∀ attributes, control ≠ .phrase attributes)
    (body : Music α) : (modify control body).turns = body.turns + 1 := by
  cases control with
  | phrase attributes => exact absurd rfl (hphrase attributes)
  | _ => rfl

end Music

/-- What a performance leaves to players and to the roster. A player asked for a phrase gets the
body as a piece, and may perform it in any way. -/
structure Ensemble (m : Type → Type) where
  /-- The events of a note. -/
  note : Context → Ratio → Payload → m (List Event)
  /-- The outcome of a phrase. -/
  phrase : Context → List PhraseAttribute → Music Payload → m Outcome
  /-- The context under any other control. -/
  control : Context → Control → m Context

variable {m : Type → Type} [Monad m] [MonadExceptOf Fault m] [MonadLiftT (Except Fault) m]

namespace Ensemble

/-- The outcome of a leaf: its scaled length, and the events of a note. -/
def leaf (ensemble : Ensemble m) (context : Context) (primitive : Primitive Payload) :
    m Outcome := do
  let elapsed ← primitive.length.mul context.lengthScale
  match primitive with
  | .note length payload => return ⟨← ensemble.note context length payload, elapsed⟩
  | .rest _ => return ⟨[], elapsed⟩

/-- The outcome of a piece by recursion. -/
def outcome (ensemble : Ensemble m) (context : Context) : Music Payload → m Outcome
  | .prim primitive => ensemble.leaf context primitive
  | .seq left right => do
    let l ← ensemble.outcome context left
    let later ← context.advanced l.elapsed
    let r ← ensemble.outcome later right
    l.followedBy r
  | .par left right => do
    let l ← ensemble.outcome context left
    let r ← ensemble.outcome context right
    l.together r
  | .modify (.phrase attributes) body => ensemble.phrase context attributes body
  | .modify control body => do
    let inner ← ensemble.control context control
    ensemble.outcome inner body
  | .stray number => throw (.strayPiece number)

/-- Under any control but a phrase, a piece has the outcome of its body under the context that the
control gives. -/
theorem outcome_modify (ensemble : Ensemble m) (context : Context) {control : Control}
    (hphrase : ∀ attributes, control ≠ .phrase attributes) (body : Music Payload) :
    ensemble.outcome context (.modify control body) =
      ensemble.control context control >>= fun inner => ensemble.outcome inner body := by
  cases control with
  | phrase attributes => exact absurd rfl (hphrase attributes)
  | _ => rfl

end Ensemble

namespace Performance

/-- The pending steps, the next one first, and the outcomes of finished pieces, the last one
first. -/
structure State where
  /-- What is still to be done. -/
  steps : List Step
  /-- What has been left and not yet taken. -/
  outcomes : List Outcome

namespace State

/-- The state that the performance of a piece starts from. -/
def initial (context : Context) (piece : Music Payload) : State := ⟨[.perform context piece], []⟩

/-- The state with nothing to do and one outcome left. -/
def finished (outcome : Outcome) : State := ⟨[], [outcome]⟩

/-- One turn of the work list. Without a step nothing happens. -/
def turn (ensemble : Ensemble m) : State → m State
  | ⟨[], outcomes⟩ => return ⟨[], outcomes⟩
  | ⟨.perform context (.prim primitive) :: steps, outcomes⟩ => do
    let outcome ← ensemble.leaf context primitive
    return ⟨steps, outcome :: outcomes⟩
  | ⟨.perform context (.seq left right) :: steps, outcomes⟩ =>
    return ⟨.perform context left :: .continueLine context right :: steps, outcomes⟩
  | ⟨.perform context (.par left right) :: steps, outcomes⟩ =>
    return ⟨.perform context left :: .perform context right :: .joinChord :: steps, outcomes⟩
  | ⟨.perform context (.modify (.phrase attributes) body) :: steps, outcomes⟩ => do
    let outcome ← ensemble.phrase context attributes body
    return ⟨steps, outcome :: outcomes⟩
  | ⟨.perform context (.modify control body) :: steps, outcomes⟩ => do
    let inner ← ensemble.control context control
    return ⟨.perform inner body :: steps, outcomes⟩
  | ⟨.perform _ (.stray number) :: _, _⟩ => throw (.strayPiece number)
  | ⟨.continueLine context right :: steps, left :: outcomes⟩ => do
    let later ← context.advanced left.elapsed
    return ⟨.perform later right :: .joinLine :: steps, left :: outcomes⟩
  | ⟨.joinLine :: steps, right :: left :: outcomes⟩ => do
    let outcome ← left.followedBy right
    return ⟨steps, outcome :: outcomes⟩
  | ⟨.joinChord :: steps, right :: left :: outcomes⟩ => do
    let outcome ← left.together right
    return ⟨steps, outcome :: outcomes⟩
  | ⟨_ :: _, _⟩ => throw .noResult

/-- A number of turns, ended by the first fault. -/
def advance (ensemble : Ensemble m) : Nat → State → m State
  | 0, state => return state
  | count + 1, state => do
    let next ← state.turn ensemble
    advance ensemble count next

@[simp] theorem advance_zero (ensemble : Ensemble m) (state : State) :
    state.advance ensemble 0 = pure state := rfl

theorem advance_succ (ensemble : Ensemble m) (count : Nat) (state : State) :
    state.advance ensemble (count + 1) = state.turn ensemble >>= State.advance ensemble count := rfl

section Turns

variable (ensemble : Ensemble m) (context : Context) (steps : List Step)
  (outcomes : List Outcome)

@[simp] theorem turn_prim (primitive : Primitive Payload) :
    turn ensemble ⟨.perform context (.prim primitive) :: steps, outcomes⟩ =
      ensemble.leaf context primitive >>= fun outcome => pure ⟨steps, outcome :: outcomes⟩ := rfl

@[simp] theorem turn_seq (left right : Music Payload) :
    turn ensemble ⟨.perform context (.seq left right) :: steps, outcomes⟩ =
      pure ⟨.perform context left :: .continueLine context right :: steps, outcomes⟩ := rfl

@[simp] theorem turn_par (left right : Music Payload) :
    turn ensemble ⟨.perform context (.par left right) :: steps, outcomes⟩ =
      pure ⟨.perform context left :: .perform context right :: .joinChord :: steps, outcomes⟩ := rfl

@[simp] theorem turn_phrase (attributes : List PhraseAttribute) (body : Music Payload) :
    turn ensemble ⟨.perform context (.modify (.phrase attributes) body) :: steps, outcomes⟩ =
      ensemble.phrase context attributes body >>= fun outcome =>
        pure ⟨steps, outcome :: outcomes⟩ := rfl

/-- Under any control but a phrase, the body takes the place of the piece. -/
theorem turn_modify {control : Control} (hphrase : ∀ attributes, control ≠ .phrase attributes)
    (body : Music Payload) :
    turn ensemble ⟨.perform context (.modify control body) :: steps, outcomes⟩ =
      ensemble.control context control >>= fun inner =>
        pure ⟨.perform inner body :: steps, outcomes⟩ := by
  cases control with
  | phrase attributes => exact absurd rfl (hphrase attributes)
  | _ => rfl

@[simp] theorem turn_stray (number : Int) :
    turn ensemble ⟨.perform context (.stray number) :: steps, outcomes⟩ =
      throw (.strayPiece number) := rfl

@[simp] theorem turn_continueLine (right : Music Payload) (left : Outcome) :
    turn ensemble ⟨.continueLine context right :: steps, left :: outcomes⟩ =
      (liftM (context.advanced left.elapsed) : m Context) >>= fun later =>
        pure ⟨.perform later right :: .joinLine :: steps, left :: outcomes⟩ := rfl

@[simp] theorem turn_joinLine (left right : Outcome) :
    turn ensemble ⟨.joinLine :: steps, right :: left :: outcomes⟩ =
      (liftM (left.followedBy right) : m Outcome) >>= fun outcome =>
        pure ⟨steps, outcome :: outcomes⟩ := rfl

@[simp] theorem turn_joinChord (left right : Outcome) :
    turn ensemble ⟨.joinChord :: steps, right :: left :: outcomes⟩ =
      (liftM (left.together right) : m Outcome) >>= fun outcome =>
        pure ⟨steps, outcome :: outcomes⟩ := rfl

end Turns

variable [LawfulFaults m]

/-- A piece on top of the work list is worked off in its number of turns, which leave its outcome
by recursion and touch nothing below. -/
theorem advance_perform (ensemble : Ensemble m) (piece : Music Payload) (context : Context)
    (steps : List Step) (outcomes : List Outcome) (count : Nat) :
    advance ensemble (piece.turns + count) ⟨.perform context piece :: steps, outcomes⟩ =
      ensemble.outcome context piece >>= fun outcome =>
        advance ensemble count ⟨steps, outcome :: outcomes⟩ := by
  induction piece generalizing context steps outcomes count with
  | prim primitive =>
    rw [Music.turns, Nat.add_comm, advance_succ]
    simp [Ensemble.outcome]
  | seq left right ihleft ihright =>
    have hcount : (Music.seq left right).turns + count =
        left.turns + (right.turns + (count + 1) + 1) + 1 := by simp only [Music.turns]; omega
    rw [hcount, advance_succ]
    simp [ihleft, advance_succ, ihright, Ensemble.outcome]
  | par left right ihleft ihright =>
    have hcount : (Music.par left right).turns + count =
        left.turns + (right.turns + (count + 1)) + 1 := by simp only [Music.turns]; omega
    rw [hcount, advance_succ]
    simp [ihleft, ihright, advance_succ, Ensemble.outcome]
  | modify control body ih =>
    obtain ⟨attributes, rfl⟩ | hphrase := control.phrase_or_other
    · rw [Music.turns, Nat.add_comm, advance_succ]
      simp [Ensemble.outcome]
    · have hcount : (Music.modify control body).turns + count = body.turns + count + 1 := by
        rw [Music.turns_modify hphrase]; omega
      rw [hcount, advance_succ, turn_modify ensemble context steps outcomes hphrase,
        Ensemble.outcome_modify ensemble context hphrase]
      simp [ih]
  | stray number =>
    rw [Music.turns, Nat.add_comm, advance_succ]
    simp [Ensemble.outcome, LawfulFaults.throw_bind]

/-- The number of turns of a piece leads from its initial state to the finished one. -/
theorem advance_initial (ensemble : Ensemble m) (context : Context) (piece : Music Payload) :
    (initial context piece).advance ensemble piece.turns =
      ensemble.outcome context piece >>= fun outcome => pure (finished outcome) := by
  simpa [initial, finished] using advance_perform ensemble piece context [] [] 0

end State

end Performance

end Polyphony
