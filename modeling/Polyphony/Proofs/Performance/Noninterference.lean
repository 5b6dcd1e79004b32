import Polyphony.Proofs.Performance.Derivation
import Polyphony.Proofs.Performance.Derived
import Polyphony.Proofs.Performance.Unheard
import Polyphony.Proofs.Performance.Weave
import Polyphony.Proofs.Player.Sharing

/-!
# Noninterference of the fields of a context

Two performances of one piece whose contexts are at one time, with one pair of scales and one
player, stay in step: what else the contexts differ in cannot move an event, nor stretch it. Volume,
pitch and channel do not mix either: if the contexts share one of them, the events do. The proof
runs both performances side by side, with one lemma for each function that puts outcomes or contexts
together.
-/

namespace Polyphony

/-- The contexts are in step, and share the traits. -/
structure Context.InStep (traits : Traits) (context context' : Context) : Prop where
  /-- They are at one time. -/
  time : context.time.Alike context'.time
  /-- They scale lengths by one value. -/
  lengthScale : context.lengthScale.value = context'.lengthScale.value
  /-- They scale durations by one value. -/
  durationScale : context.durationScale.value = context'.durationScale.value
  /-- They have one player. -/
  player : context.player = context'.player
  /-- The time is spelled in one way, if that is shared. -/
  spelling : traits.spelling → context.time = context'.time
  /-- They have one volume, if that is shared. -/
  volume : traits.volume → context.volume = context'.volume
  /-- They have one pitch, if that is shared. -/
  pitch : traits.pitch → context.pitch = context'.pitch
  /-- They are on one channel, if that is shared. -/
  channel : traits.channel → context.channel = context'.channel

/-- The outcomes took one time, and their events are in step one by one. -/
structure Outcome.InStep (traits : Traits) (outcome outcome' : Outcome) : Prop where
  /-- The pieces took one time. -/
  elapsed : outcome.elapsed = outcome'.elapsed
  /-- The events are in step. -/
  events : List.Forall₂ (Event.InStep traits) outcome.events outcome'.events

namespace Context.InStep

variable {traits : Traits} {context context' : Context}

/-- Contexts in step stay in step as time goes on. -/
theorem advanced_consistent (hstep : context.InStep traits context') (elapsed : Ratio) :
    Consistent (InStep traits) (context.advanced elapsed) (context'.advanced elapsed) := by
  intro later later' hlater hlater'
  obtain ⟨_, _, rfl⟩ := advanced_eq_ok_iff.mp hlater
  obtain ⟨_, _, rfl⟩ := advanced_eq_ok_iff.mp hlater'
  have htime : Ratio.ofValue (context.time.value + elapsed.value) =
      .ofValue (context'.time.value + elapsed.value) := by
    rw [hstep.time.value]
  exact { hstep with time := .inl htime, spelling := fun _ => htime }

/-- A directive calls the same player in both contexts, or none. -/
theorem summoned_eq (hstep : context.InStep traits context') (roster : Option Roster)
    (directive : String) :
    context.summoned roster directive = context'.summoned roster directive := by
  simp only [summoned, hstep.player]

theorem derived_player_eq (hstep : context.InStep traits context') (roster : Option Roster)
    (control : Control) :
    (context.derived roster control).player = (context'.derived roster control).player := by
  cases control with
  | custom directive => exact hstep.summoned_eq roster directive
  | _ => exact hstep.player

/-- Contexts in step are in step under a control. Its key makes no difference. -/
theorem under_consistent (hstep : context.InStep traits context') (roster : Option Roster)
    (control : Control) :
    Consistent (InStep traits) (context.under roster control).result
      (context'.under roster control).result := by
  intro inner inner' hinner hinner'
  obtain ⟨_, rfl⟩ := under_eq_ok_iff.mp hinner
  obtain ⟨_, rfl⟩ := under_eq_ok_iff.mp hinner'
  constructor
  · rw [derived_time, derived_time]
    exact hstep.time
  · rw [derived_lengthScale_value, derived_lengthScale_value, hstep.lengthScale]
  · rw [derived_durationScale_value, derived_durationScale_value, hstep.durationScale]
  · exact hstep.derived_player_eq roster control
  · intro hshared
    rw [derived_time, derived_time, hstep.spelling hshared]
  · intro hshared
    rw [derived_volume, derived_volume, hstep.volume hshared]
  · intro hshared
    rw [derived_pitch, derived_pitch, hstep.pitch hshared]
  · intro hshared
    rw [derived_channel, derived_channel, hstep.channel hshared]

/-- A note sounds in step in contexts in step. -/
theorem playNote_consistent (hstep : context.InStep traits context') (length : Ratio)
    (payload : Payload) :
    Consistent (Event.InStep traits) (Player.playNote context length payload)
      (Player.playNote context' length payload) := by
  intro event event' hevent hevent'
  obtain ⟨_, _, _, rfl⟩ := Player.playNote_eq_ok_iff.mp hevent
  obtain ⟨_, _, _, rfl⟩ := Player.playNote_eq_ok_iff.mp hevent'
  constructor
  · exact hstep.time
  · simp only [Player.noteEvent, hstep.lengthScale]
  · simp only [Player.noteEvent, hstep.durationScale]
  · rfl
  · rfl
  · exact hstep.spelling
  · intro hshared
    simp only [Player.noteEvent, hstep.volume hshared]
  · intro hshared
    simp only [Player.noteEvent, hstep.pitch hshared]
  · exact hstep.channel

/-- Written lengths take one time. -/
theorem mul_lengthScale_consistent (hstep : context.InStep traits context') (length : Ratio) :
    Consistent Eq (length.mul context.lengthScale) (length.mul context'.lengthScale) := by
  intro elapsed elapsed' helapsed helapsed'
  obtain ⟨_, _, rfl⟩ := Ratio.mul_eq_ok_iff.mp helapsed
  obtain ⟨_, _, rfl⟩ := Ratio.mul_eq_ok_iff.mp helapsed'
  rw [hstep.lengthScale]

end Context.InStep

namespace Outcome

variable {traits : Traits} {context context' : Context} {left left' right right' : Outcome}

/-- Leaves have outcomes in step. -/
theorem ofPrimitive_consistent (hstep : context.InStep traits context')
    (primitive : Primitive Payload) :
    Consistent (InStep traits) (ofPrimitive context primitive).result
      (ofPrimitive context' primitive).result := by
  cases primitive with
  | note length payload =>
    simp only [ofPrimitive, Primitive.length, Recorded.result_bind, Recorded.result_lift]
    refine (hstep.mul_lengthScale_consistent length).bind ?_
    rintro elapsed _ rfl
    refine Consistent.bind_same fun _ => ?_
    refine (hstep.playNote_consistent length payload).bind fun event event' hevent => ?_
    exact .pure ⟨rfl, .cons hevent .nil⟩
  | rest length =>
    simp only [ofPrimitive, Primitive.length, Recorded.result_bind, Recorded.result_lift]
    refine (hstep.mul_lengthScale_consistent length).bind ?_
    rintro elapsed _ rfl
    exact .pure ⟨rfl, .nil⟩

/-- Outcomes in step follow each other in step. -/
theorem InStep.followedBy_consistent (hleft : left.InStep traits left')
    (hright : right.InStep traits right') :
    Consistent (InStep traits) (left.followedBy right) (left'.followedBy right') := by
  rw [followedBy, followedBy, hleft.elapsed, hright.elapsed]
  exact .bind_same fun elapsed => .pure ⟨rfl, List.rel_append hleft.events hright.events⟩

/-- Outcomes in step go together in step, since their times compare alike. -/
theorem InStep.together_consistent (hleft : left.InStep traits left')
    (hright : right.InStep traits right') :
    Consistent (InStep traits) (left.together right) (left'.together right') := by
  intro outcome outcome' houtcome houtcome'
  obtain rfl := eq_of_together houtcome
  obtain rfl := eq_of_together houtcome'
  constructor
  · simp only [hleft.elapsed, hright.elapsed]
  · exact Performance.forall₂_interleave (fun _ _ _ _ hl hr => hl.time_lt_iff hr) hleft.events
      hright.events

/-- A phrase keeps outcomes in step. -/
theorem phrase_consistent (roster : Option Roster) (hstep : context.InStep traits context')
    (attributes : List PhraseAttribute) {body body' : Journaled Outcome}
    (hbody : Consistent (InStep traits) body.result body'.result) :
    Consistent (InStep traits) (phrase roster context attributes body).result
      (phrase roster context' attributes body').result := by
  cases roster with
  | none => exact .pure ⟨rfl, .nil⟩
  | some players =>
    simp only [phrase, Recorded.result_bind, Recorded.result_lift, hstep.player]
    refine Consistent.bind_same fun _ => hbody.bind fun outcome outcome' houtcome => ?_
    rw [houtcome.elapsed]
    refine (Player.applyPhraseAttributes_consistent context'.player outcome'.elapsed attributes
      houtcome.events).bind fun shaped shaped' hshaped => ?_
    exact .pure ⟨rfl, hshaped⟩

end Outcome

/-- A piece has outcomes in step in contexts in step. -/
theorem Music.outcome_consistent {traits : Traits} (roster : Option Roster)
    {context context' : Context} (hstep : context.InStep traits context') (piece : Music Payload) :
    Consistent (Outcome.InStep traits) (piece.outcome roster context).result
      (piece.outcome roster context').result := by
  induction piece generalizing context context' with
  | prim primitive => exact Outcome.ofPrimitive_consistent hstep primitive
  | seq left right ihleft ihright =>
    simp only [outcome, Recorded.result_bind, Recorded.result_lift]
    refine (ihleft hstep).bind fun l l' hl => ?_
    rw [hl.elapsed]
    refine (hstep.advanced_consistent l'.elapsed).bind fun later later' hlater => ?_
    exact (ihright hlater).bind fun r r' hr => hl.followedBy_consistent hr
  | par left right ihleft ihright =>
    simp only [outcome, Recorded.result_bind, Recorded.result_lift]
    refine (ihleft hstep).bind fun l l' hl => ?_
    exact (ihright hstep).bind fun r r' hr => hl.together_consistent hr
  | modify control body ih =>
    obtain ⟨attributes, rfl⟩ | hphrase := control.phrase_or_other
    · exact Outcome.phrase_consistent roster hstep attributes (ih hstep)
    · rw [outcome_modify _ _ hphrase, outcome_modify _ _ hphrase, Recorded.result_bind,
        Recorded.result_bind]
      exact (hstep.under_consistent roster control).bind fun inner inner' hinner => ih hinner
  | stray number => rintro _ _ ⟨⟩

/-- The traits that two contexts share. -/
def Context.shared (context context' : Context) : Traits where
  spelling := context.time = context'.time
  volume := context.volume = context'.volume
  pitch := context.pitch = context'.pitch
  channel := context.channel = context'.channel

/-- The fields of a context do not interfere. Wherever a piece performs in two contexts at one time,
with one pair of scales and one player, it takes one time in both, and the events are in step: as
many of them, at the same times, with the same lengths, durations and further numbers. They also
share the volume, the pitch or the channel if the contexts do. No key is ever heard, be it in the
context or in the piece: pieces that differ in keys only are reported alike in any key. -/
theorem context_fields_do_not_interfere (session : Session) (piece : Music Payload) :
    (∀ context context' : Context, context.time.Alike context'.time →
      context.lengthScale.Alike context'.lengthScale →
      context.durationScale.Alike context'.durationScale → context.player = context'.player →
      ∀ outcome outcome', (session.perform context piece).result = .ok outcome →
        (session.perform context' piece).result = .ok outcome' →
        outcome.InStep (context.shared context') outcome') ∧
    ∀ other : Music Payload, other.keyless = piece.keyless → ∀ (context : Context) (key : Key),
      session.perform (context.withKey key) other = session.perform context piece := by
  constructor
  · intro context context' htime hlengthScale hdurationScale hplayer outcome outcome' hok hok'
    have hstep : context.InStep (context.shared context') context' :=
      { time := htime
        lengthScale := hlengthScale.value
        durationScale := hdurationScale.value
        player := hplayer
        spelling := id
        volume := id
        pitch := id
        channel := id }
    rw [Session.perform, Music.perform_eq_outcome] at hok hok'
    exact piece.outcome_consistent session.roster hstep outcome outcome' hok hok'
  · intro other hkeyless context key
    have hother : session.perform (context.withKey key) other.keyless =
        session.perform (context.withKey key) other :=
      session.perform_keyless (context.withKey key) key other
    rw [← hother, hkeyless, session.perform_keyless]

namespace Performance

/-- The standard context with its time spelled otherwise, at a lower volume, on another channel and
in another key. -/
def muted : Context :=
  { Context.standard with
    time := ⟨0, 5⟩, volume := 60, channel := ⟨.last 15⟩, key := ⟨.last 11, "dorian"⟩ }

/-- The specimen sounds softer in the muted context, at the same times and with the same pitches,
and its own key may be left out. -/
theorem specimen_fields_do_not_interfere :
    (Context.standard.time.Alike muted.time ∧ Context.standard.player = muted.player ∧
      (Context.standard.shared muted).pitch) ∧
    (∃ outcome,
      ((Session.start (some .standard)).perform muted specimen).result = .ok outcome ∧
      specimenOutcome.InStep (Context.standard.shared muted) outcome ∧
      outcome.events.map Event.volume = [30, 60, 90, 80]) ∧
    specimen.keyless ≠ specimen ∧
    (Session.start (some .standard)).perform (Context.standard.withKey muted.key)
        specimen.keyless =
      (Session.start (some .standard)).perform .standard specimen := by
  obtain ⟨hstep, hkeys⟩ := context_fields_do_not_interfere (.start (some .standard)) specimen
  have htime : Context.standard.time.Alike muted.time := by
    right
    constructor <;> decide +kernel
  have hmuted : ∃ outcome, (specimen.perform (some .standard) muted).result = .ok outcome ∧
      outcome.events.map Event.volume = [30, 60, 90, 80] := by
    rw [Music.perform_eq_outcome]
    refine ⟨((specimen.outcome (some .standard) muted).result.toOption).getD .silence, ?_⟩
    decide +kernel
  obtain ⟨outcome, hok, hvolumes⟩ := hmuted
  have hinStep := hstep .standard muted htime (.inl rfl) (.inl rfl) rfl specimenOutcome outcome
    perform_specimen hok
  have hkeyless : specimen.keyless.keyless = specimen.keyless := rfl
  refine ⟨⟨htime, rfl, rfl⟩, ⟨outcome, hok, hinStep, hvolumes⟩, by decide, ?_⟩
  rw [← hkeys specimen.keyless hkeyless .standard muted.key]

end Performance

end Polyphony
