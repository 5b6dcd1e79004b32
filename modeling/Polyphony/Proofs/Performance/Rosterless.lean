import Polyphony.Proofs.Performance.Composition

/-!
# Performances without a roster

Without a roster nobody shapes phrases and nobody can be summoned: phrases fall silent and
directives change nothing. So a piece performs as what is left of it when nothing stands in the
place of its phrases and its directives are left out, and from what is left no roster makes anything
else.
-/

namespace Polyphony

namespace Music

variable {α : Type}

/-- The piece with nothing in the place of every phrase, and without directives. -/
def pruned : Music α → Music α
  | prim primitive => prim primitive
  | seq left right => seq left.pruned right.pruned
  | par left right => par left.pruned right.pruned
  | modify (.phrase _) _ => unit
  | modify (.custom _) body => body.pruned
  | modify control body => modify control body.pruned
  | stray number => stray number

end Music

namespace Context

/-- Only directives ask the roster. -/
theorem under_eq_of_ne_custom {control : Control}
    (hcustom : ∀ directive, control ≠ .custom directive) (roster roster' : Option Roster)
    (context : Context) : context.under roster control = context.under roster' control := by
  cases control with
  | custom directive => exact absurd rfl (hcustom directive)
  | _ => rfl

/-- Without a roster, a directive leaves the context as it is. -/
theorem under_custom_none_result (context : Context) (directive : String) :
    (context.under none (.custom directive)).result = .ok context := by
  have hsummoned : context.summoned none directive = context.player := by
    unfold summoned
    cases Performance.directedPlayer? directive <;> rfl
  rw [under, directed_result, hsummoned, withPlayer]

end Context

namespace Music

/-- Without a roster, a piece ends as what is left of it ends with any roster or without one. -/
theorem outcome_pruned_result (roster : Option Roster) {context : Context}
    (hcontext : context.Defined) (piece : Music Payload) :
    (piece.outcome none context).result = (piece.pruned.outcome roster context).result := by
  induction piece generalizing context with
  | prim primitive => rfl
  | seq left right ihleft ihright =>
    simp only [pruned, outcome, Recorded.result_bind, Recorded.result_lift]
    rw [ihleft hcontext]
    refine bind_congr fun l => bind_congr_of_ok fun later hlater => ?_
    rw [ihright (hcontext.advanced hlater)]
  | par left right ihleft ihright =>
    simp only [pruned, outcome, Recorded.result_bind, ihleft hcontext, ihright hcontext]
  | modify control body ih =>
    cases control with
    | phrase attributes =>
      have hunit : Performs roster context unit .silence := (Performs.unit_iff hcontext).mpr rfl
      exact hunit.outcome_result.symm
    | custom directive =>
      rw [outcome_modify none context (by simp), Recorded.result_bind,
        Context.under_custom_none_result]
      exact ih hcontext
    | _ =>
      simp only [pruned]
      rw [outcome_modify _ context (by simp), outcome_modify _ context (by simp),
        Recorded.result_bind, Recorded.result_bind,
        Context.under_eq_of_ne_custom (by simp) none roster]
      exact bind_congr_of_ok fun inner hunder => ih (hcontext.under hunder)
  | stray number => rfl

end Music

/-- Without a roster a piece performs as it does with any roster, or without one, once nothing
stands in the place of its phrases and its directives are left out: the outcome is the same, and so
is the fault where there is none. -/
theorem perform_without_roster (roster : Option Roster) {context : Context}
    (hcontext : context.Defined) (piece : Music Payload) :
    (piece.perform none context).result = (piece.pruned.perform roster context).result := by
  rw [Music.perform_eq_outcome, Music.perform_eq_outcome]
  exact Music.outcome_pruned_result roster hcontext piece

namespace Performance

/-- Half as fast, a phrase that no player could shape and a note after it, against a rest, a note
and a phrase for which another player is summoned. -/
def unattended : Music Payload :=
  .modify (.tempo ⟨-2, -4⟩)
    (.par
      (.seq
        (.modify (.phrase [.accent ⟨1, 0⟩]) (.prim (.note ⟨1, 1⟩ (.pitch 48))))
        (.prim (.note ⟨1, 4⟩ (.pitch 60))))
      (.modify (.custom "player Fancy")
        (.seq
          (.seq (.prim (.rest ⟨1, 8⟩)) (.prim (.note ⟨2, 8⟩ (.loud 64 90))))
          (.modify (.phrase [.crescendo .one]) (.prim (.note ⟨1, 2⟩ (.pitch 67)))))))

/-- Without a roster the notes outside the phrases sound, as if the phrases took no time. -/
theorem unattended_without_roster :
    Context.standard.Defined ∧
    (unattended.perform none .standard).result =
      (unattended.pruned.perform (some .standard) .standard).result ∧
    (unattended.perform none .standard).result = .ok {
      events := [
        { time := ⟨0, 1⟩, pitch := 60, volume := 127, length := ⟨1, 2⟩, duration := ⟨1, 4⟩,
          channel := .first, on := true, params := [] },
        { time := ⟨1, 4⟩, pitch := 64, volume := 90, length := ⟨1, 2⟩, duration := ⟨1, 4⟩,
          channel := .first, on := true, params := [] }]
      elapsed := ⟨3, 4⟩ } := by
  refine ⟨Context.standard_defined,
    perform_without_roster (some .standard) Context.standard_defined unattended, ?_⟩
  rw [Music.perform_eq_outcome]
  decide +kernel

end Performance

end Polyphony
