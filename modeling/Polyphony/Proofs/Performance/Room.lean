import Polyphony.Proofs.Journal.Success
import Polyphony.Proofs.Performance.Machine

/-!
# Performing in a room

A stack has room for so many phrases, one within the other. In that room a performance goes exactly
as it does on a stack without a limit, journal included, as long as its piece nests phrases no
deeper. A piece that nests them deeper never comes to an outcome with a roster: it faults on its way
down, if no other fault comes first. Only phrases count, for lines, chords and other controls are
worked off by one work list, and without a roster no phrase is performed at all.
-/

namespace Polyphony

/-- How deep phrases are nested in a piece. -/
def Music.phraseDepth {α : Type} : Music α → Nat
  | prim _ => 0
  | seq left right => max left.phraseDepth right.phraseDepth
  | par left right => max left.phraseDepth right.phraseDepth
  | modify (.phrase _) body => body.phraseDepth + 1
  | modify _ body => body.phraseDepth
  | stray _ => 0

/-- Controls other than phrases count for nothing. -/
theorem Music.phraseDepth_modify {α : Type} {control : Control}
    (hphrase : ∀ attributes, control ≠ .phrase attributes) (body : Music α) :
    (modify control body).phraseDepth = body.phraseDepth := by
  cases control with
  | phrase attributes => exact absurd rfl (hphrase attributes)
  | _ => rfl

namespace Recorded

variable {ε α β : Type}

/-- A computation goes exactly as another one does, unless it comes to the one fault, which takes
the risk. -/
def SameUpTo (risk : Prop) (fault : Fault) (x y : Recorded ε α) : Prop :=
  x = y ∨ risk ∧ x.result = .error fault

namespace SameUpTo

variable {risk : Prop} {fault : Fault}

theorem refl (x : Recorded ε α) : SameUpTo risk fault x x := .inl rfl

/-- What is the same at one risk is the same at a greater one. -/
theorem mono {greater : Prop} {x y : Recorded ε α} (hsame : SameUpTo risk fault x y)
    (himp : risk → greater) : SameUpTo greater fault x y :=
  hsame.imp_right (And.imp_left himp)

/-- Sequences go alike when their first parts do, and their second parts on every result. -/
theorem bind {x y : Recorded ε α} {f g : α → Recorded ε β} (hsame : SameUpTo risk fault x y)
    (hnext : ∀ a, SameUpTo risk fault (f a) (g a)) :
    SameUpTo risk fault (x >>= f) (y >>= g) := by
  obtain rfl | ⟨hrisk, hx⟩ := hsame
  · obtain ⟨entries, result⟩ := x
    cases result with
    | error error => exact .inl rfl
    | ok a =>
      obtain heq | ⟨hrisk, hf⟩ := hnext a
      · exact .inl (by simp only [bind_def, andThen, heq])
      · exact .inr ⟨hrisk, hf⟩
  · exact .inr ⟨hrisk, by rw [result_bind, hx]; rfl⟩

end SameUpTo

end Recorded

open Recorded

/-- A phrase goes as on a stack without a limit, unless there is no room for it or its body comes to
the fault of the room that is left. -/
theorem Ensemble.phrase_sameUpTo {roster : Option Roster} {body : Music Payload} {depth : Nat}
    (hbody : ∀ room context, SameUpTo (roster.isSome ∧ room < depth) .nestedTooDeep
      (body.performWithin room roster context) (body.perform roster context))
    (room : Nat) (context : Context) (attributes : List PhraseAttribute) :
    SameUpTo (roster.isSome ∧ room < depth + 1) .nestedTooDeep
      ((within (some room) roster).phrase context attributes body)
      ((ofRoster roster).phrase context attributes body) := by
  rw [phrase_ofRoster]
  refine .bind (.refl _) fun _ => ?_
  cases roster with
  | none => exact .refl _
  | some players =>
    refine .bind ?_ fun outcome => .refl _
    cases room with
    | zero => exact .inr ⟨⟨rfl, Nat.succ_pos depth⟩, rfl⟩
    | succ inner => exact (hbody inner context).mono fun h => ⟨h.1, Nat.succ_lt_succ h.2⟩

namespace Music

/-- In a room a piece is performed as the recursion with the players of the roster says. -/
theorem performWithin_eq (room : Nat) (roster : Option Roster) (context : Context)
    (piece : Music Payload) :
    piece.performWithin room roster context =
      (Ensemble.within (some room) roster).outcome context piece :=
  run_perform (some room) roster context piece

/-- In a room a piece is performed exactly as on a stack without a limit, unless there is a roster,
the piece nests phrases deeper than the room, and the performance comes to that fault. -/
theorem performWithin_sameUpTo (room : Nat) (roster : Option Roster) (context : Context)
    (piece : Music Payload) :
    SameUpTo (roster.isSome ∧ room < piece.phraseDepth) .nestedTooDeep
      (piece.performWithin room roster context) (piece.perform roster context) := by
  rw [performWithin_eq, perform_eq_ofRoster]
  induction piece generalizing room context with
  | prim primitive => exact .inl rfl
  | seq left right ihleft ihright =>
    refine ((ihleft room context).mono fun h => ⟨h.1, lt_max_of_lt_left h.2⟩).bind fun l => ?_
    refine .bind (.refl _) fun later => ?_
    refine ((ihright room later).mono fun h => ⟨h.1, lt_max_of_lt_right h.2⟩).bind fun r => ?_
    exact .refl _
  | par left right ihleft ihright =>
    refine ((ihleft room context).mono fun h => ⟨h.1, lt_max_of_lt_left h.2⟩).bind fun l => ?_
    refine ((ihright room context).mono fun h => ⟨h.1, lt_max_of_lt_right h.2⟩).bind fun r => ?_
    exact .refl _
  | modify control body ih =>
    obtain ⟨attributes, rfl⟩ | hphrase := control.phrase_or_other
    · refine Ensemble.phrase_sameUpTo (fun inner context => ?_) room context attributes
      rw [performWithin_eq, perform_eq_ofRoster]
      exact ih inner context
    · rw [Ensemble.outcome_modify _ context hphrase, Ensemble.outcome_modify _ context hphrase,
        phraseDepth_modify hphrase]
      exact .bind (.refl _) fun inner => ih room inner
  | stray number => exact .inl rfl

/-- A piece that has an outcome with a roster nests phrases no deeper than the room. -/
theorem phraseDepth_le_of_performWithin {room : Nat} {players : Roster} {context : Context}
    {piece : Music Payload} {outcome : Outcome}
    (hok : (piece.performWithin room (some players) context).result = .ok outcome) :
    piece.phraseDepth ≤ room := by
  rw [performWithin_eq] at hok
  induction piece generalizing room context outcome with
  | prim primitive => exact Nat.zero_le room
  | seq left right ihleft ihright =>
    simp only [Ensemble.outcome, result_bind, bind_eq_ok_iff] at hok
    obtain ⟨l, hleft, later, _, r, hright, _⟩ := hok
    exact max_le (ihleft hleft) (ihright hright)
  | par left right ihleft ihright =>
    simp only [Ensemble.outcome, result_bind, bind_eq_ok_iff] at hok
    obtain ⟨l, hleft, r, hright, _⟩ := hok
    exact max_le (ihleft hleft) (ihright hright)
  | modify control body ih =>
    obtain ⟨attributes, rfl⟩ | hphrase := control.phrase_or_other
    · simp only [Ensemble.outcome, Ensemble.within, Outcome.phrase, result_bind,
        bind_eq_ok_iff] at hok
      obtain ⟨_, _, unshaped, ⟨inner, hinner, hbody⟩, _⟩ := hok
      cases room with
      | zero => exact absurd hinner (by simp [Performance.innerRoom])
      | succ inner' =>
        obtain rfl : some inner' = inner := pure_eq_ok_iff.mp hinner
        rw [run_perform] at hbody
        exact Nat.succ_le_succ (ih hbody)
    · rw [Ensemble.outcome_modify _ context hphrase, result_bind] at hok
      obtain ⟨inner, _, hbody⟩ := bind_eq_ok_iff.mp hok
      rw [phraseDepth_modify hphrase]
      exact ih hbody
  | stray number => exact Nat.zero_le room

/-- In a room, a piece has the outcome that it has on a stack without a limit, provided that with a
roster its phrases are nested no deeper than the room; otherwise it has none. -/
theorem performWithin_result_eq_ok_iff {room : Nat} {roster : Option Roster} {context : Context}
    {piece : Music Payload} {outcome : Outcome} :
    (piece.performWithin room roster context).result = .ok outcome ↔
      (piece.perform roster context).result = .ok outcome ∧
        (roster.isSome → piece.phraseDepth ≤ room) := by
  constructor
  · intro hok
    refine ⟨?_, fun hroster => ?_⟩
    · obtain hsame | ⟨_, herror⟩ := piece.performWithin_sameUpTo room roster context
      · rw [← hsame, hok]
      · exact absurd (hok.symm.trans herror) (by simp)
    · obtain ⟨players, rfl⟩ := Option.isSome_iff_exists.mp hroster
      exact phraseDepth_le_of_performWithin hok
  · rintro ⟨hok, hdepth⟩
    obtain hsame | ⟨⟨hroster, hdeeper⟩, _⟩ := piece.performWithin_sameUpTo room roster context
    · rw [hsame, hok]
    · exact absurd (hdepth hroster) hdeeper.not_ge

/-- A piece that has an outcome on a stack without a limit comes to the fault of a room that its
phrases are nested deeper than. -/
theorem performWithin_eq_error {room : Nat} {players : Roster} {context : Context}
    {piece : Music Payload} {outcome : Outcome}
    (hok : (piece.perform (some players) context).result = .ok outcome)
    (hdeeper : room < piece.phraseDepth) :
    (piece.performWithin room (some players) context).result = .error .nestedTooDeep := by
  obtain hsame | ⟨_, herror⟩ := piece.performWithin_sameUpTo room (some players) context
  · rw [← hsame] at hok
    exact absurd (phraseDepth_le_of_performWithin hok) hdeeper.not_ge
  · exact herror

end Music

end Polyphony
