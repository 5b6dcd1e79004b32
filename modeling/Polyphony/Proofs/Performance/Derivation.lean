import Polyphony.Proofs.Journal.Success
import Polyphony.Proofs.Performance.Machine

/-!
# Derivations of performances

A performance that succeeds has a derivation: a tree of rules, one for each node of the piece that
was performed. What every performance keeps is proved by induction on its derivation, one case for
each rule, with the faults and the journal out of the way.
-/

namespace Polyphony

/-- A piece performs under a context with an outcome. -/
inductive Performs (roster : Option Roster) : Context → Music Payload → Outcome → Prop where
  /-- A note is played. -/
  | note {context : Context} {length elapsed : Ratio} {payload : Payload} {event : Event}
      (helapsed : length.mul context.lengthScale = .ok elapsed)
      (hevent : Player.playNote context length payload = .ok event) :
      Performs roster context (.prim (.note length payload)) ⟨[event], elapsed⟩
  /-- A rest takes its time. -/
  | rest {context : Context} {length elapsed : Ratio}
      (helapsed : length.mul context.lengthScale = .ok elapsed) :
      Performs roster context (.prim (.rest length)) ⟨[], elapsed⟩
  /-- The right piece starts where the left one ended. -/
  | seq {context later : Context} {left right : Music Payload} {l r outcome : Outcome}
      (hleft : Performs roster context left l)
      (hlater : context.advanced l.elapsed = .ok later)
      (hright : Performs roster later right r)
      (hjoin : l.followedBy r = .ok outcome) :
      Performs roster context (.seq left right) outcome
  /-- Both pieces start together. -/
  | par {context : Context} {left right : Music Payload} {l r outcome : Outcome}
      (hleft : Performs roster context left l)
      (hright : Performs roster context right r)
      (hjoin : l.together r = .ok outcome) :
      Performs roster context (.par left right) outcome
  /-- With a roster, the player of the context shapes the phrase. -/
  | phrase {context : Context} {attributes : List PhraseAttribute} {body : Music Payload}
      {outcome : Outcome} {shaped : List Event}
      (hroster : roster.isSome)
      (hbody : Performs roster context body outcome)
      (hshaped : context.player.applyPhraseAttributes outcome.elapsed outcome.events attributes =
        .ok shaped) :
      Performs roster context (.modify (.phrase attributes) body) ⟨shaped, outcome.elapsed⟩
  /-- Without a roster, a phrase is silent. -/
  | silence {context : Context} {attributes : List PhraseAttribute} {body : Music Payload}
      (hroster : roster = none) :
      Performs roster context (.modify (.phrase attributes) body) .silence
  /-- Any other control derives a context for its body. -/
  | modify {context inner : Context} {control : Control} {body : Music Payload}
      {outcome : Outcome}
      (hphrase : ∀ attributes, control ≠ .phrase attributes)
      (hunder : (context.under roster control).result = .ok inner)
      (hbody : Performs roster inner body outcome) :
      Performs roster context (.modify control body) outcome

namespace Performs

variable {roster : Option Roster} {context : Context} {piece : Music Payload} {outcome : Outcome}

/-- A derivation is followed by the recursion. -/
theorem outcome_result (hperforms : Performs roster context piece outcome) :
    (piece.outcome roster context).result = .ok outcome := by
  induction hperforms with
  | note helapsed hevent => simp [Music.outcome, Outcome.ofPrimitive, Primitive.length, *]
  | rest helapsed => simp [Music.outcome, Outcome.ofPrimitive, Primitive.length, *]
  | seq hleft hlater hright hjoin ihleft ihright =>
    simp [Music.outcome, *]
  | par hleft hright hjoin ihleft ihright => simp [Music.outcome, *]
  | phrase hroster hbody hshaped ih =>
    obtain ⟨players, rfl⟩ := Option.isSome_iff_exists.mp hroster
    simp [Music.outcome, Outcome.phrase, *]
  | silence hroster => simp [Music.outcome, Outcome.phrase, hroster]
  | modify hphrase hunder hbody ih =>
    simp [Music.outcome_modify _ _ hphrase, *]

/-- A piece performs with one outcome. -/
theorem unique {other : Outcome} (hperforms : Performs roster context piece outcome)
    (hother : Performs roster context piece other) : outcome = other :=
  Except.ok.inj (hperforms.outcome_result.symm.trans hother.outcome_result)

/-- An outcome of the recursion has a derivation. -/
theorem of_outcome_result (hok : (piece.outcome roster context).result = .ok outcome) :
    Performs roster context piece outcome := by
  induction piece generalizing context outcome with
  | prim primitive =>
    cases primitive with
    | note length payload =>
      obtain ⟨elapsed, helapsed, event, hevent, rfl⟩ := by
        simpa [Music.outcome, Outcome.ofPrimitive, Primitive.length] using hok
      exact .note helapsed hevent
    | rest length =>
      obtain ⟨elapsed, helapsed, rfl⟩ := by
        simpa [Music.outcome, Outcome.ofPrimitive, Primitive.length] using hok
      exact .rest helapsed
  | seq left right ihleft ihright =>
    obtain ⟨l, hleft, later, hlater, r, hright, hjoin⟩ := by simpa [Music.outcome] using hok
    exact .seq (ihleft hleft) hlater (ihright hright) hjoin
  | par left right ihleft ihright =>
    obtain ⟨l, hleft, r, hright, hjoin⟩ := by simpa [Music.outcome] using hok
    exact .par (ihleft hleft) (ihright hright) hjoin
  | modify control body ih =>
    obtain ⟨attributes, rfl⟩ | hphrase := control.phrase_or_other
    · cases roster with
      | none =>
        obtain rfl := by simpa [Music.outcome, Outcome.phrase] using hok
        exact .silence rfl
      | some players =>
        obtain ⟨unshaped, hbody, events, hshaped, rfl⟩ := by
          simpa [Music.outcome, Outcome.phrase] using hok
        exact .phrase rfl (ih hbody) hshaped
    · rw [Music.outcome_modify _ _ hphrase, Recorded.result_bind, bind_eq_ok_iff] at hok
      obtain ⟨inner, hunder, hbody⟩ := hok
      exact .modify hphrase hunder (ih hbody)
  | stray number => simp [Music.outcome] at hok

end Performs

/-- A piece performs with an outcome when the work list ends with it. -/
theorem Music.perform_result_iff {roster : Option Roster} {context : Context}
    {piece : Music Payload} {outcome : Outcome} :
    (piece.perform roster context).result = .ok outcome ↔
      Performs roster context piece outcome := by
  rw [Music.perform_eq_outcome]
  exact ⟨Performs.of_outcome_result, Performs.outcome_result⟩

namespace Performance

/-- A piece with every kind of node, for seeing statements about performances at work: a passage at
a faster tempo against an accented phrase, followed by a phrase that another player shapes. -/
def specimen : Music Payload :=
  .seq
    (.par
      (.modify (.tempo ⟨3, 2⟩)
        (.seq (.prim (.note ⟨1, 4⟩ (.pitch 60))) (.prim (.note ⟨2, 8⟩ (.loud 62 90)))))
      (.modify (.phrase [.accent ⟨1, 2⟩])
        (.modify (.transpose 12) (.prim (.note ⟨1, 2⟩ (.pitch 48))))))
    (.modify (.custom "player Fancy")
      (.modify (.phrase [.crescendo .one])
        (.modify (.key ⟨.last 11, "dorian"⟩)
          (.modify (.instrument ⟨.last 15⟩)
            (.seq (.prim (.rest ⟨1, 4⟩))
              (.prim (.note ⟨1, 4⟩ (.marked 64 [.fingering 2, .volume 80]))))))))

/-- The outcome of the specimen with the standard roster, in the standard context. -/
def specimenOutcome : Outcome where
  events := [
    { time := ⟨0, 1⟩, pitch := 60, volume := 63, length := ⟨1, 2⟩, duration := ⟨1, 4⟩,
      channel := .first, on := true, params := [] },
    { time := ⟨0, 1⟩, pitch := 60, volume := 127, length := ⟨1, 6⟩, duration := ⟨1, 12⟩,
      channel := .first, on := true, params := [] },
    { time := ⟨1, 6⟩, pitch := 62, volume := 90, length := ⟨1, 6⟩, duration := ⟨1, 12⟩,
      channel := .first, on := true, params := [] },
    { time := ⟨3, 4⟩, pitch := 64, volume := 80, length := ⟨1, 4⟩, duration := ⟨1, 8⟩,
      channel := ⟨.last 15⟩, on := true, params := [] }]
  elapsed := ⟨1, 1⟩

theorem perform_specimen :
    (specimen.perform (some .standard) .standard).result = .ok specimenOutcome := by
  rw [Music.perform_eq_outcome]
  decide +kernel

end Performance

end Polyphony
