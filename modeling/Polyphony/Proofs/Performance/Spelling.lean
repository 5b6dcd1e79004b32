import Polyphony.Proofs.Performance.Composition
import Polyphony.Proofs.Performance.Length
import Polyphony.Proofs.Performance.Weave
import Polyphony.Proofs.Player.Spelling

/-!
# Performances of spellings

Pieces that are spellings of one piece perform alike under contexts that are spellings of one
context: with outcomes that are the same but for the spelling of their ratios, or with faults of one
kind. The proof is by recursion on the piece, with one lemma for each function that puts outcomes or
contexts together.
-/

namespace Polyphony

/-- The contexts have times and scales of one value each, and all else equal. -/
structure Context.Same (context context' : Context) : Prop where
  /-- The times have one value. -/
  time : context.time.Same context'.time
  /-- The scales of lengths have one value. -/
  lengthScale : context.lengthScale.Same context'.lengthScale
  /-- The scales of durations have one value. -/
  durationScale : context.durationScale.Same context'.durationScale
  /-- All else is equal. -/
  same : context' = { context with
    time := context'.time
    lengthScale := context'.lengthScale
    durationScale := context'.durationScale }

/-- The outcomes took times of one value, and their events are the same one by one. -/
structure Outcome.Same (R : List Binary64 → List Binary64 → Prop) (outcome outcome' : Outcome) :
    Prop where
  /-- The times that the pieces took have one value. -/
  elapsed : outcome.elapsed.Same outcome'.elapsed
  /-- The events are the same. -/
  events : List.Forall₂ (Event.Same R) outcome.events outcome'.events

namespace Context

variable {context context' : Context}

theorem Same.player (hsame : context.Same context') : context'.player = context.player :=
  (congrArg Context.player hsame.same :)

/-- Spellings of a context are advanced into spellings of one context. -/
theorem Same.advanced_matched (hsame : context.Same context') {elapsed elapsed' : Ratio}
    (helapsed : elapsed.Same elapsed') :
    Matched Same (context.advanced elapsed) (context'.advanced elapsed') := by
  refine (hsame.time.add_matched helapsed).bind fun time time' htime => ?_
  refine .pure ⟨htime.same, hsame.lengthScale, hsame.durationScale, ?_⟩
  exact congrArg (fun context => { context with time := time' }) hsame.same

theorem Same.withTempo_matched (hsame : context.Same context') {ratio ratio' : Ratio}
    (hratio : ratio.Same ratio') :
    Matched Same (context.withTempo ratio) (context'.withTempo ratio') := by
  refine (hsame.lengthScale.div_matched hratio).bind fun lengthScale lengthScale' hlength => ?_
  refine (hsame.durationScale.div_matched hratio).bind fun duration duration' hduration => ?_
  refine .pure ⟨hsame.time, hlength.same, hduration.same, ?_⟩
  exact congrArg (fun context => { context with
    lengthScale := lengthScale', durationScale := duration' }) hsame.same

/-- Spellings of a control derive spellings of one context, or fail alike. -/
theorem Same.under_matched (hsame : context.Same context') (roster : Option Roster)
    {control control' : Control} (hcontrol : control.Same control') :
    Matched Same (context.under roster control).result (context'.under roster control').result := by
  obtain ⟨htime, hlength, hduration, hfields⟩ := hsame
  cases hcontrol with
  | tempo hratio => exact withTempo_matched ⟨htime, hlength, hduration, hfields⟩ hratio
  | phrase hattributes => exact .pure ⟨htime, hlength, hduration, hfields⟩
  | plain htempo hphrase =>
    cases control with
    | tempo ratio => exact absurd rfl (htempo ratio)
    | phrase attributes => exact absurd rfl (hphrase attributes)
    | stray number => exact .of_error rfl rfl rfl
    | custom directive =>
      have hplayer : context'.summoned roster directive = context.summoned roster directive := by
        rw [hfields]
        rfl
      refine .of_ok (directed_result roster context directive)
        (directed_result roster context' directive) ?_
      rw [hplayer]
      exact ⟨htime, hlength, hduration,
        congrArg (·.withPlayer (context.summoned roster directive)) hfields⟩
    | transpose steps =>
      exact .pure ⟨htime, hlength, hduration, congrArg (·.transposed steps) hfields⟩
    | instrument channel =>
      exact .pure ⟨htime, hlength, hduration, congrArg (·.withChannel channel) hfields⟩
    | key key => exact .pure ⟨htime, hlength, hduration, congrArg (·.withKey key) hfields⟩

/-- Payloads that sound the same are played alike. -/
theorem Same.playNote_matched {R : List Binary64 → List Binary64 → Prop}
    (hsame : context.Same context') {length length' : Ratio} (hlength : length.Same length')
    {p q : Payload} (hpayload : p.Sounds R q) :
    Matched (Event.Same R) (Player.playNote context length p)
      (Player.playNote context' length' q) := by
  refine .of_ok
    (Player.playNote_eq_ok_iff.mpr
      ⟨hsame.lengthScale.left, hsame.durationScale.left, hlength.left, rfl⟩)
    (Player.playNote_eq_ok_iff.mpr
      ⟨hsame.lengthScale.right, hsame.durationScale.right, hlength.right, rfl⟩) ?_
  refine ⟨hsame.time, ?_, ?_, hpayload.params, ?_⟩
  · simp only [Player.noteEvent, hsame.lengthScale.value, hlength.value]
    exact (Ratio.ofValue_defined _).same
  · simp only [Player.noteEvent, hsame.durationScale.value, hlength.value]
    exact (Ratio.ofValue_defined _).same
  · rw [hsame.same]
    simp only [Player.noteEvent, hpayload.pitch, hpayload.volume]

end Context

namespace Outcome

variable {R : List Binary64 → List Binary64 → Prop} {left left' right right' : Outcome}

theorem silence_same : silence.Same R silence := ⟨Ratio.zero_defined.same, .nil⟩

/-- Outcomes that are the same follow each other alike. -/
theorem Same.followedBy_matched (hleft : left.Same R left') (hright : right.Same R right') :
    Matched (Same R) (left.followedBy right) (left'.followedBy right') := by
  refine (hleft.elapsed.add_matched hright.elapsed).bind fun elapsed elapsed' helapsed => ?_
  exact .pure ⟨helapsed.same, List.rel_append hleft.events hright.events⟩

/-- Events that are the same are merged alike, since their times compare alike. -/
theorem Same.merge_matched (hleft : left.Same R left') (hright : right.Same R right') :
    Matched (List.Forall₂ (Event.Same R)) (Performance.merge left.events right.events)
      (Performance.merge left'.events right'.events) := by
  obtain ⟨hl, hl'⟩ := Event.Same.forall_defined hleft.events
  obtain ⟨hr, hr'⟩ := Event.Same.forall_defined hright.events
  exact .of_ok (Performance.merge_eq_ok hl hr) (Performance.merge_eq_ok hl' hr')
    (Performance.forall₂_interleave (fun _ _ _ _ hl hr => hl.time_lt_iff hr) hleft.events
      hright.events)

/-- Outcomes that are the same go together alike. -/
theorem Same.together_matched (hleft : left.Same R left') (hright : right.Same R right') :
    Matched (Same R) (left.together right) (left'.together right') := by
  refine (hleft.merge_matched hright).bind fun events events' hevents => ?_
  refine (hleft.elapsed.max_matched hright.elapsed).bind fun elapsed elapsed' helapsed => ?_
  exact .pure ⟨helapsed, hevents⟩

/-- Spellings of a note have the same outcome, up to what their payloads may differ in. -/
theorem ofPrimitive_note_matched {context context' : Context} (hcontext : context.Same context')
    {length length' : Ratio} (hlength : length.Same length') {p q : Payload}
    (hpayload : p.Sounds R q) :
    Matched (Same R) (ofPrimitive context (.note length p)).result
      (ofPrimitive context' (.note length' q)).result := by
  simp only [ofPrimitive, Recorded.result_bind, Recorded.result_lift]
  refine (hlength.mul_matched hcontext.lengthScale).bind fun elapsed elapsed' helapsed => ?_
  refine (hcontext.playNote_matched hlength hpayload).bind fun event event' hevent => ?_
  exact .pure ⟨helapsed.same, .cons hevent .nil⟩

/-- Spellings of a rest have the same outcome. -/
theorem ofPrimitive_rest_matched {context context' : Context} (hcontext : context.Same context')
    {length length' : Ratio} (hlength : length.Same length') :
    Matched (Same R) (ofPrimitive context (.rest length)).result
      (ofPrimitive context' (.rest length')).result := by
  simp only [ofPrimitive, Recorded.result_bind, Recorded.result_lift]
  refine (hlength.mul_matched hcontext.lengthScale).bind fun elapsed elapsed' helapsed => ?_
  exact .pure ⟨helapsed.same, .nil⟩

/-- Spellings of a phrase shape bodies with matching outcomes into matching outcomes. -/
theorem phrase_matched (roster : Option Roster) {context context' : Context}
    (hcontext : context.Same context') {attributes attributes' : List PhraseAttribute}
    (hattributes : List.Forall₂ PhraseAttribute.Same attributes attributes')
    {body body' : Journaled Outcome} (hbody : Matched (Same R) body.result body'.result) :
    Matched (Same R) (phrase roster context attributes body).result
      (phrase roster context' attributes' body').result := by
  cases roster with
  | none => exact .pure silence_same
  | some roster =>
    simp only [phrase, Recorded.result_bind, Recorded.result_lift, hcontext.player]
    refine (Matched.refl _).bind fun _ _ _ => hbody.bind fun outcome outcome' houtcome => ?_
    refine (Player.applyPhraseAttributes_matched context.player hattributes houtcome.elapsed
      houtcome.events).bind fun shaped shaped' hshaped => ?_
    exact .pure ⟨houtcome.elapsed, hshaped⟩

end Outcome

namespace Music.Same

variable {R : List Binary64 → List Binary64 → Prop} {stands : Payload → Payload → Prop}
  {a b : Music Payload}

/-- Spellings of a piece perform alike under spellings of a context. -/
theorem outcome_matched (hsame : a.Same stands b) (hsounds : ∀ p q, stands p q → p.Sounds R q)
    (roster : Option Roster) {context context' : Context} (hcontext : context.Same context') :
    Matched (Outcome.Same R) (a.outcome roster context).result
      (b.outcome roster context').result := by
  induction hsame generalizing context context' with
  | note hlength hpayload =>
    exact Outcome.ofPrimitive_note_matched hcontext hlength (hsounds _ _ hpayload)
  | rest hlength => exact Outcome.ofPrimitive_rest_matched hcontext hlength
  | seq _ _ ihleft ihright =>
    simp only [outcome, Recorded.result_bind, Recorded.result_lift]
    refine (ihleft hcontext).bind fun l l' hl => ?_
    refine (hcontext.advanced_matched hl.elapsed).bind fun later later' hlater => ?_
    exact (ihright hlater).bind fun r r' hr => hl.followedBy_matched hr
  | par _ _ ihleft ihright =>
    simp only [outcome, Recorded.result_bind, Recorded.result_lift]
    refine (ihleft hcontext).bind fun l l' hl => ?_
    exact (ihright hcontext).bind fun r r' hr => hl.together_matched hr
  | @modify control control' body body' hcontrol _ ih =>
    by_cases hphrase : ∃ attributes, control = .phrase attributes
    · obtain ⟨attributes, rfl⟩ := hphrase
      cases hcontrol with
      | phrase hattributes => exact Outcome.phrase_matched roster hcontext hattributes (ih hcontext)
      | plain _ hplain => exact absurd rfl (hplain attributes)
    · have hplain : ∀ attributes, control ≠ .phrase attributes := not_exists.mp hphrase
      have hplain' := hcontrol.not_phrase hplain
      rw [outcome_modify roster context hplain, outcome_modify roster context' hplain',
        Recorded.result_bind, Recorded.result_bind]
      exact (hcontext.under_matched roster hcontrol).bind fun inner inner' hinner => ih hinner
  | stray number => exact .of_error rfl rfl rfl

end Music.Same

/-- The outcomes are equal as they compare: the times that the pieces took, and the events one by
one. -/
structure Outcome.Equal (outcome outcome' : Outcome) : Prop where
  /-- The times that the pieces took compare as equal. -/
  elapsed : outcome.elapsed.eq outcome'.elapsed = .ok true
  /-- The events compare as equal. -/
  events : List.Forall₂ (fun event event' => event.eq event' = .ok true) outcome.events
    outcome'.events

theorem Outcome.Same.equal {outcome outcome' : Outcome}
    (hsame : outcome.Same (fun xs ys => sameParams xs ys) outcome') : outcome.Equal outcome' where
  elapsed := Ratio.eq_iff_same.mpr hsame.elapsed
  events := hsame.events.imp fun _ _ hevent => hevent.eq_eq_ok

/-- The spelling of ratios does not matter. Pieces that compare as equal perform alike under
contexts with times and scales of one value: either both have outcomes, which compare as equal, or
both fail with faults of one kind. Their lengths compare as equal too, or both have none, and
well-formed pieces have lengths. Where ratios are spelled differently and payloads are left alone,
even the further numbers of the events stay as they are. -/
theorem perform_spelled_alike (roster : Option Roster) {context context' : Context}
    (hcontext : context.Same context') (a : Music Payload) :
    (∀ b, a.eq b = .ok true →
      Matched Outcome.Equal (a.perform roster context).result (b.perform roster context').result ∧
      Matched (fun length length' => length.eq length' = .ok true) a.length b.length ∧
      (a.WellFormed → ∃ length length', a.length = .ok length ∧ b.length = .ok length' ∧
        length.eq length' = .ok true)) ∧
    ∀ respelled, a.Same Eq respelled →
      Matched (Outcome.Same Eq) (a.perform roster context).result
        (respelled.perform roster context').result ∧
      Matched Ratio.Same a.length respelled.length := by
  simp only [Music.perform_eq_outcome]
  constructor
  · intro b hequal
    have hsame := Music.eq_iff_same.mp hequal
    have hlengths :
        Matched (fun length length' => length.eq length' = .ok true) a.length b.length :=
      hsame.length_matched.imp fun _ _ => Ratio.eq_iff_same.mpr
    refine ⟨?_, hlengths, fun hpiece => ?_⟩
    · exact (hsame.outcome_matched (fun _ _ => Payload.sounds_of_eq) roster hcontext).imp
        fun _ _ => Outcome.Same.equal
    · obtain ⟨length, hlength, _⟩ := hpiece.exists_length
      obtain ⟨length', hlength', hlengthsEqual⟩ := hlengths.exists_ok hlength
      exact ⟨length, length', hlength, hlength', hlengthsEqual⟩
  · intro respelled hrespelled
    refine ⟨hrespelled.outcome_matched ?_ roster hcontext, hrespelled.length_matched⟩
    rintro p _ rfl
    exact ⟨rfl, rfl, rfl⟩

namespace Performance

/-- A swelling passage, for seeing one piece in two spellings. -/
def swell : Music Payload :=
  .modify (.custom "player Fancy")
    (.modify (.phrase [.crescendo ⟨1, 2⟩, .accent ⟨3, 4⟩])
      (.seq (.prim (.note ⟨1, 4⟩ (.marked 60 [.params [.zero false]])))
        (.modify (.tempo ⟨3, 2⟩)
          (.par (.prim (.note ⟨1, 2⟩ (.loud 64 100))) (.prim (.rest ⟨1, 4⟩))))))

/-- The swelling passage with other signs and common divisors, and with a negative zero. -/
def respelledSwell : Music Payload :=
  .modify (.custom "player Fancy")
    (.modify (.phrase [.crescendo ⟨-1, -2⟩, .accent ⟨6, 8⟩])
      (.seq (.prim (.note ⟨-2, -8⟩ (.marked 60 [.params [.zero true]])))
        (.modify (.tempo ⟨-6, -4⟩)
          (.par (.prim (.note ⟨3, 6⟩ (.loud 64 100))) (.prim (.rest ⟨-5, -20⟩))))))

/-- The standard context with its time and scales spelled otherwise. -/
def respelledContext : Context :=
  { Context.standard with time := ⟨0, -7⟩, lengthScale := ⟨-3, -3⟩, durationScale := ⟨2, 4⟩ }

/-- Both spellings of the swelling passage have outcomes, which compare as equal, and lengths that
do. -/
theorem swell_spelled_alike :
    (Context.standard.Same respelledContext ∧ swell.eq respelledSwell = .ok true ∧
      swell.WellFormed) ∧
    (∃ outcome outcome',
      (swell.perform (some .standard) .standard).result = .ok outcome ∧
      (respelledSwell.perform (some .standard) respelledContext).result = .ok outcome' ∧
      outcome.Equal outcome') ∧
    ∃ length length', swell.length = .ok length ∧ respelledSwell.length = .ok length' ∧
      length.eq length' = .ok true := by
  have hcontext : Context.standard.Same respelledContext := by
    refine ⟨⟨?_, ?_, ?_⟩, ⟨?_, ?_, ?_⟩, ⟨?_, ?_, ?_⟩, rfl⟩ <;> decide +kernel
  have hequal : swell.eq respelledSwell = .ok true := by decide +kernel
  have hswell : swell.WellFormed := by decide +kernel
  obtain ⟨hperformed, _, hlengths⟩ :=
    (perform_spelled_alike (some .standard) hcontext swell).1 respelledSwell hequal
  have hok : ∃ outcome, (swell.perform (some .standard) .standard).result = .ok outcome := by
    rw [Music.perform_eq_outcome]
    refine ⟨((swell.outcome (some .standard) .standard).result.toOption).getD .silence, ?_⟩
    decide +kernel
  obtain ⟨outcome, houtcome⟩ := hok
  obtain ⟨outcome', houtcome', houtcomes⟩ := hperformed.exists_ok houtcome
  exact ⟨⟨hcontext, hequal, hswell⟩, ⟨outcome, outcome', houtcome, houtcome', houtcomes⟩,
    hlengths hswell⟩

end Performance

end Polyphony
