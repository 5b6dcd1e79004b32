import Mathlib.Data.List.Induction
import Polyphony.Proofs.Performance.Composition

/-!
# Pieces that perform alike

Two pieces perform alike when nobody can tell their performances apart, from whatever context they
start. Pieces that perform alike may stand for each other anywhere in a larger piece.
-/

namespace Polyphony.Music

/-- From every context whose times have values, the one piece performs exactly when the other does,
with the same outcome. -/
def Alike (roster : Option Roster) (a b : Music Payload) : Prop :=
  ∀ context : Context, context.Defined → ∀ outcome : Outcome,
    (a.perform roster context).result = .ok outcome ↔
      (b.perform roster context).result = .ok outcome

namespace Alike

variable {roster : Option Roster} {a a' b b' c : Music Payload}

theorem of_performs_iff
    (hperforms : ∀ context : Context, context.Defined → ∀ outcome : Outcome,
      Performs roster context a outcome ↔ Performs roster context b outcome) :
    Alike roster a b := by
  intro context hcontext outcome
  rw [perform_result_iff, perform_result_iff]
  exact hperforms context hcontext outcome

theorem performs_iff (halike : Alike roster a b) {context : Context} (hcontext : context.Defined)
    {outcome : Outcome} :
    Performs roster context a outcome ↔ Performs roster context b outcome := by
  rw [← perform_result_iff, ← perform_result_iff]
  exact halike context hcontext outcome

theorem refl (a : Music Payload) : Alike roster a a := fun _ _ _ => Iff.rfl

theorem symm (halike : Alike roster a b) : Alike roster b a :=
  fun context hcontext outcome => (halike context hcontext outcome).symm

theorem trans (hab : Alike roster a b) (hbc : Alike roster b c) : Alike roster a c :=
  fun context hcontext outcome =>
    (hab context hcontext outcome).trans (hbc context hcontext outcome)

/-- Lines of pieces that perform alike perform alike. -/
theorem seq (hleft : Alike roster a a') (hright : Alike roster b b') :
    Alike roster (.seq a b) (.seq a' b') := by
  refine of_performs_iff fun context hcontext outcome => ?_
  rw [Performs.seq_iff hcontext, Performs.seq_iff hcontext]
  refine exists_congr fun l => exists_congr fun r => ?_
  rw [hleft.performs_iff hcontext, hright.performs_iff (hcontext.later l.elapsed)]

/-- Pieces together perform alike when each does. -/
theorem par (hleft : Alike roster a a') (hright : Alike roster b b') :
    Alike roster (.par a b) (.par a' b') := by
  refine of_performs_iff fun context hcontext outcome => ?_
  rw [Performs.par_iff hcontext, Performs.par_iff hcontext]
  refine exists_congr fun l => exists_congr fun r => ?_
  rw [hleft.performs_iff hcontext, hright.performs_iff hcontext]

/-- Pieces that perform alike do so under every control. -/
theorem modify (hbody : Alike roster a b) (control : Control) :
    Alike roster (.modify control a) (.modify control b) := by
  refine of_performs_iff fun context hcontext outcome => ?_
  obtain ⟨attributes, rfl⟩ | hphrase := control.phrase_or_other
  · cases roster with
    | none => rw [Performs.silence_iff, Performs.silence_iff]
    | some players =>
      rw [Performs.phrase_iff, Performs.phrase_iff]
      refine exists_congr fun inner => exists_congr fun shaped => ?_
      rw [hbody.performs_iff hcontext]
  · rw [Performs.modify_iff hphrase, Performs.modify_iff hphrase,
      hbody.performs_iff (hcontext.derived roster control)]

section Join

variable {join : Music Payload → Music Payload → Music Payload}

/-- Where a join is associative, a chain from a piece on is the join of the piece with the chain from
nothing on, if nothing may follow the piece. -/
theorem foldl_unit (hassoc : ∀ a b c, Alike roster (join (join a b) c) (join a (join b c)))
    (hjoin : ∀ {a a' b}, Alike roster a a' → Alike roster (join a b) (join a' b))
    {first : Music Payload} (hunit : Alike roster (join first .unit) first)
    (pieces : List (Music Payload)) :
    Alike roster (pieces.foldl join first) (join first (pieces.foldl join .unit)) := by
  induction pieces using List.reverseRecOn with
  | nil => exact hunit.symm
  | append_singleton pieces last ih =>
    rw [List.foldl_append, List.foldl_append]
    exact (hjoin ih).trans (hassoc first (pieces.foldl join .unit) last)

/-- Where a join is associative, a chain nested to the left performs like one nested to the right. -/
theorem foldl_foldr (hassoc : ∀ a b c, Alike roster (join (join a b) c) (join a (join b c)))
    (first last : Music Payload) (middle : List (Music Payload)) :
    Alike roster ((middle ++ [last]).foldl join first) ((first :: middle).foldr join last) := by
  induction middle generalizing first with
  | nil => exact refl _
  | cons piece middle ih =>
    exact (ih (join first piece)).trans (hassoc first piece (middle.foldr join last))

end Join

end Alike

end Polyphony.Music
