import Mathlib.Data.List.Induction
import Mathlib.Tactic.Ring
import Polyphony.Proofs.Music.Map
import Polyphony.Proofs.Performance.Composition

/-!
# Lines of notes

A line grows at its end, so what it comes to is found by induction from the end. The notes of a line
of one note value start at multiples of that value, scaled, and the line takes as many of them as it
has notes.
-/

namespace Polyphony

namespace Music

variable {α β : Type}

/-- A line with one more piece is the line and then the piece. -/
theorem line_concat (pieces : List (Music α)) (piece : Music α) :
    line (pieces ++ [piece]) = seq (line pieces) piece := by
  rw [line, List.foldl_append]
  rfl

/-- The payloads of a line are those of its pieces. -/
theorem mapped_line (f : α → β) (pieces : List (Music α)) :
    (line pieces).mapped f = line (pieces.map (mapped f)) := by
  induction pieces using List.reverseRecOn with
  | nil => rfl
  | append_singleton pieces piece ih =>
    rw [List.map_append, List.map_singleton, line_concat, line_concat, mapped, ih]

/-- A line of pieces is a piece. -/
theorem whole_line {pieces : List (Music α)} (hpieces : ∀ piece ∈ pieces, piece.Whole) :
    (line pieces).Whole := by
  induction pieces using List.reverseRecOn with
  | nil => rfl
  | append_singleton pieces piece ih =>
    obtain ⟨hfront, hlast⟩ := List.forall_mem_append.mp hpieces
    have hline : (line pieces).stray? = none := ih hfront
    have hpiece : piece.stray? = none := hlast piece List.mem_cons_self
    rw [line_concat, Whole, stray?, hline, hpiece]
    rfl

/-- Notes of one value in a line, one for each payload. -/
def lineOfNotes (length : Ratio) (payloads : List α) : Music α :=
  line (payloads.map fun payload => prim (.note length payload))

theorem lineOfNotes_concat (length : Ratio) (payloads : List α) (payload : α) :
    lineOfNotes length (payloads ++ [payload]) =
      seq (lineOfNotes length payloads) (prim (.note length payload)) := by
  rw [lineOfNotes, List.map_append, List.map_singleton, line_concat]
  rfl

theorem map_lineOfNotes (f : α → β) (length : Ratio) (payloads : List α) :
    (lineOfNotes length payloads).map f = .ok (lineOfNotes length (payloads.map f)) := by
  have hwhole : (lineOfNotes length payloads).Whole := by
    refine whole_line fun piece hpiece => ?_
    obtain ⟨payload, _, rfl⟩ := List.mem_map.mp hpiece
    rfl
  rw [hwhole.map_eq, lineOfNotes, mapped_line, List.map_map, lineOfNotes, List.map_map]
  rfl

/-- A line of notes measures its note value as often as it has notes. -/
theorem length_lineOfNotes {length : Ratio} (hlength : length.Defined) (payloads : List α) :
    (lineOfNotes length payloads).length = .ok (.ofValue (payloads.length * length.value)) := by
  induction payloads using List.reverseRecOn with
  | nil =>
    rw [List.length_nil, Nat.cast_zero, zero_mul]
    exact length_prim _
  | append_singleton payloads payload ih =>
    have hsum : payloads.length * length.value + length.value =
        (payloads ++ [payload]).length * length.value := by
      rw [List.length_append, List.length_singleton]
      push_cast
      ring
    rw [lineOfNotes_concat, length_seq, ih, length_prim]
    refine Ratio.add_eq_ok_iff.mpr ⟨Ratio.ofValue_defined _, hlength, ?_⟩
    rw [Ratio.value_ofValue, ← hsum]
    rfl

end Music

/-- The event of the note at an index of a line of notes. -/
def Player.lineEvent (context : Context) (length : Ratio) (index : Nat) (payload : Payload) :
    Event :=
  noteEvent (context.later (.ofValue (index * (length.value * context.lengthScale.value)))) length
    payload

/-- The events of a line of notes stand at multiples of its note value, scaled. -/
theorem Performs.lineOfNotes {context : Context} {length : Ratio} (roster : Option Roster)
    (hcontext : context.Defined) (hlength : length.Defined) (payloads : List Payload) :
    Performs roster context (Music.lineOfNotes length payloads)
      ⟨payloads.mapIdx (Player.lineEvent context length),
        .ofValue (payloads.length * (length.value * context.lengthScale.value))⟩ := by
  induction payloads using List.reverseRecOn with
  | nil =>
    refine (unit_iff hcontext).mpr ?_
    rw [List.length_nil, Nat.cast_zero, zero_mul]
    rfl
  | append_singleton payloads payload ih =>
    have hlast : Performs roster
        (context.later (.ofValue (payloads.length * (length.value * context.lengthScale.value))))
        (.prim (.note length payload))
        ⟨[Player.lineEvent context length payloads.length payload],
          .ofValue (length.value * context.lengthScale.value)⟩ :=
      .note (Ratio.mul_eq_ok_iff.mpr ⟨hlength, hcontext.lengthScale, rfl⟩)
        (Player.playNote_eq_ok_iff.mpr
          ⟨hcontext.lengthScale, hcontext.durationScale, hlength, rfl⟩)
    rw [Music.lineOfNotes_concat]
    refine (seq_iff hcontext).mpr ⟨_, _, ih, hlast, ?_⟩
    rw [List.mapIdx_concat, Outcome.inRow, List.length_append, List.length_singleton,
      Ratio.value_ofValue, Ratio.value_ofValue]
    push_cast
    rw [add_one_mul]

end Polyphony
