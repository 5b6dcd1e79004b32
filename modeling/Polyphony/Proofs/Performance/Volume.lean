import Polyphony.Proofs.Performance.Derived
import Polyphony.Proofs.Performance.Recasting

/-!
# Three ways to set a volume

A volume may come with every pitch, as an attribute of every note, or from the context. It reaches
the events before any phrase does, so nothing that happens to them later can tell the three apart.
-/

namespace Polyphony

/-- A volume in the context instead of the notes. -/
def Recasting.volume (volume : Int) : Recasting where
  context context := { context with volume }
  event := id
  advanced start elapsed :=
    Context.advanced_change ({ · with volume }) start rfl (fun _ => rfl) elapsed
  under roster start control := by
    cases control with
    | tempo ratio =>
      exact Context.under_tempo_change ({ · with volume }) start rfl rfl (fun _ _ => rfl) roster
        ratio
    | custom directive =>
      exact Context.directed_change ({ · with volume }) start rfl (fun _ => rfl) roster directive
    | _ => rfl
  lengthScale _ := rfl
  player _ := rfl
  time _ := rfl
  shape player elapsed events attributes := by rw [List.map_id, List.map_id_fun, id_map]

namespace Music

variable {volume : Int}

/-- A volume beside the pitch of a note is as good as one in the context. -/
theorem loud_fits : (Recasting.volume volume).Fits (fun p => .loud p volume) .pitch := by
  intro context length p
  simp only [Recasting.volume, id_map]
  rfl

/-- So is a volume attribute of a note. -/
theorem marked_fits :
    (Recasting.volume volume).Fits (fun p => .marked p [.volume volume]) .pitch := by
  intro context length p
  simp only [Recasting.volume, id_map]
  rfl

end Music

/-- A piece whose notes set the volume performs like the plain one in a context of that volume. -/
theorem Session.perform_mapped {volume : Int} {f : Int → Payload}
    (hfits : (Recasting.volume volume).Fits f .pitch) (session : Session) (context : Context)
    (piece : Music Int) :
    session.perform context (piece.mapped f) =
      session.perform { context with volume } (piece.mapped .pitch) := by
  have hechoes := hfits.outcome session.roster context piece
  rw [show (Recasting.volume volume).event = id from rfl, Outcome.recast_id] at hechoes
  rw [perform, perform, Music.perform_eq_outcome, Music.perform_eq_outcome]
  exact (hechoes.report_eq session).symm

/-- Three ways to set a volume agree. A volume paired with every pitch, a volume attribute at every
note and a volume in the context leave the same report of a performance, with any roster or none:
the same events in the same time, or the same fault, and the same log. -/
theorem volume_set_three_ways (session : Session) (context : Context) {piece : Music Int}
    (volume : Int) (hwhole : piece.Whole) :
    ∃ plain loud marked, piece.map .pitch = .ok plain ∧ piece.addVolume volume = .ok loud ∧
      piece.addVolumeAttribute volume = .ok marked ∧
      session.perform context loud = session.perform { context with volume } plain ∧
      session.perform context marked = session.perform { context with volume } plain :=
  ⟨_, _, _, hwhole.map_eq _, hwhole.map_eq _, hwhole.map_eq _,
    session.perform_mapped Music.loud_fits context piece,
    session.perform_mapped Music.marked_fits context piece⟩

/-- Two notes that rise for a fancy player, over an accented one for a player nobody knows. -/
def Performance.callings : Music Int :=
  .par
    (.modify (.custom "player Fancy")
      (.modify (.phrase [.crescendo .one])
        (.seq (.prim (.note ⟨1, 4⟩ 60)) (.prim (.note ⟨1, 4⟩ 64)))))
    (.modify (.custom "player Nobody")
      (.modify (.phrase [.accent ⟨3, 4⟩]) (.prim (.note ⟨1, 2⟩ 48))))

open Performance in
/-- Whichever way the notes are given the volume eighty, the crescendo and the accent start from it,
and the log warns of the unknown player. -/
theorem callings_three_ways :
    callings.Whole ∧
    ∃ plain loud marked, callings.map .pitch = .ok plain ∧ callings.addVolume 80 = .ok loud ∧
      callings.addVolumeAttribute 80 = .ok marked ∧
      (∀ piece ∈ [loud, marked], (Session.start (some .standard)).perform .standard piece =
        (Session.start (some .standard)).perform { Context.standard with volume := 80 } plain) ∧
      (fun outcome : Outcome => outcome.events.map Event.volume) <$>
        ((Session.start (some .standard)).perform .standard loud).result = .ok [60, 80, 120] ∧
      ((Session.start (some .standard)).perform .standard marked).log.map Line.level =
        [.debug, .debug, .warning] := by
  have hwhole : callings.Whole := by decide
  obtain ⟨plain, loud, marked, hplain, hloud, hmarked, hbeside, hattribute⟩ :=
    volume_set_three_ways (.start (some .standard)) .standard 80 hwhole
  have hevents : (fun outcome : Outcome => outcome.events.map Event.volume) <$>
      ((Session.start (some .standard)).perform { Context.standard with volume := 80 }
        (callings.mapped .pitch)).result = .ok [60, 80, 120] := by
    rw [Session.perform, Music.perform_eq_outcome]
    decide +kernel
  have hlog : ((Session.start (some .standard)).perform { Context.standard with volume := 80 }
      (callings.mapped .pitch)).log.map Line.level = [.debug, .debug, .warning] := by
    rw [Session.perform, Music.perform_eq_outcome]
    decide +kernel
  obtain rfl := Except.ok.inj ((hwhole.map_eq Payload.pitch).symm.trans hplain)
  refine ⟨hwhole, _, loud, marked, hplain, hloud, hmarked, ?_, ?_, ?_⟩
  · exact List.forall_mem_cons.mpr ⟨hbeside, List.forall_mem_singleton.mpr hattribute⟩
  · rw [hbeside, hevents]
  · rw [hattribute, hlog]

end Polyphony
