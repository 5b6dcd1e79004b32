import Polyphony.Proofs.Binary64.Integral
import Polyphony.Proofs.Configuration.Settings
import Polyphony.Proofs.Demo.Account
import Polyphony.Proofs.Message.Sounding
import Polyphony.Proofs.Mode.Degree
import Polyphony.Proofs.Performance.Line

/-!
# The octave of the demo

Under every context that a configuration makes, the demo performs a quarter note for each degree of
one octave of its key, both tonics included, and tells of each of them in order. It is refused where
a pitch is out of range for messages, and where a time is too large for a double.
-/

namespace Polyphony

namespace Demo

/-- A quarter note of a context, some quarters after the start. -/
def quarterEvent (context : Context) (index : Nat) (pitch : Int) : Event where
  time := .ofValue (index / 4 * context.lengthScale.value)
  pitch := context.pitch + pitch
  volume := context.volume
  length := .ofValue (context.lengthScale.value / 4)
  duration := .ofValue (context.durationScale.value / 4)
  channel := context.channel
  on := true
  params := []

/-- The pitch of a degree in the octave, in a mode of given steps. -/
def octavePitch (context : Context) (steps : List Int) (degree : Nat) : Int :=
  Modes.pitchOfDegree steps context.key.tonic degree octave

/-- The octave of a key in quarter notes, from its tonic up. -/
def octaveEvents (context : Context) (steps : List Int) : List Event :=
  (List.range (steps.length + 1)).map fun degree =>
    quarterEvent context degree (octavePitch context steps degree)

/-- The performance of one ascending octave under a context, in a mode of given steps. -/
structure Octave (modes : Modes) (context : Context) (steps : List Int) (events : List Event) :
    Prop where
  /-- The steps are those of the mode of the context. -/
  mode : modes.steps context.key.mode = .ok steps
  /-- There is an event for each step and one for the last tonic. -/
  count : events.length = steps.length + 1
  /-- The events are the quarter notes of the degrees of the key. -/
  notes : ∃ pitch : Nat → Int,
    (∀ degree : Nat, modes.degree context.key degree octave = .ok (pitch degree)) ∧
    events = (List.range (steps.length + 1)).map fun degree =>
      quarterEvent context degree (pitch degree)
  /-- The pitches ascend. -/
  ascending : (events.map Event.pitch).Pairwise (· < ·)
  /-- The last tonic is an octave above the first one. -/
  closes : ∃ first last, events.head? = some first ∧ events.getLast? = some last ∧
    last.pitch = first.pitch + 12

section Playing

variable {modes : Modes} {context : Context} {steps : List Int}

theorem pitches_eq_ok (hsteps : modes.steps context.key.mode = .ok steps) :
    pitches modes context.key =
      .ok ((List.range (steps.length + 1)).map (octavePitch context steps)) := by
  rw [pitches, hsteps]
  rfl

theorem scale_eq_ok (volume : Int) (pitches : List Int) :
    scale volume pitches = .ok (Music.lineOfNotes Duration.quarter
      (pitches.map fun p => .marked p [.volume volume])) :=
  Music.map_lineOfNotes _ _ _

/-- A quarter note in a line from the start is a note of the octave. -/
theorem lineEvent_eq (htime : context.time = .zero) (index : Nat) (pitch : Int) :
    Player.lineEvent context Duration.quarter index (.marked pitch [.volume context.volume]) =
      quarterEvent context index pitch := by
  have hquarter : Duration.quarter.value = 1 / 4 := by decide +kernel
  have hstart : context.time.value + (index : Rat) * (1 / 4 * context.lengthScale.value) =
      index / 4 * context.lengthScale.value := by
    rw [htime, Ratio.value_zero]
    ring
  simp only [Player.lineEvent, Player.noteEvent, Context.later, Ratio.value_ofValue, hquarter,
    hstart, mul_one_div]
  rfl

/-- A line of quarter notes for the degrees has the events of the octave. -/
theorem mapIdx_lineEvent (htime : context.time = .zero) :
    (((List.range (steps.length + 1)).map (octavePitch context steps)).map
      fun pitch => Payload.marked pitch [.volume context.volume]).mapIdx
        (Player.lineEvent context Duration.quarter) = octaveEvents context steps := by
  refine List.ext_getElem ?_ fun i hleft hright => ?_
  · simp [octaveEvents]
  · simp only [octaveEvents, List.getElem_mapIdx, List.getElem_map, List.getElem_range]
    exact lineEvent_eq htime _ _

/-- The octave performs under every context that starts at time zero, with any roster. -/
theorem performs_octave (roster : Option Roster) (hcontext : context.Defined)
    (htime : context.time = .zero) (hsteps : modes.steps context.key.mode = .ok steps) :
    ∃ pitches piece elapsed,
      Demo.pitches modes context.key = .ok pitches ∧ scale context.volume pitches = .ok piece ∧
      piece.length = .ok (.ofValue ((steps.length + 1 : Nat) / 4)) ∧
      (piece.perform roster context).result = .ok ⟨octaveEvents context steps, elapsed⟩ := by
  have hquarter : Duration.quarter.Defined := by decide
  have hvalue : Duration.quarter.value = 1 / 4 := by decide +kernel
  let payloads : List Payload :=
    ((List.range (steps.length + 1)).map (octavePitch context steps)).map
      fun pitch => .marked pitch [.volume context.volume]
  have hcount : payloads.length = steps.length + 1 := by simp [payloads]
  have hlength := Music.length_lineOfNotes hquarter payloads
  have hperforms := Performs.lineOfNotes roster hcontext hquarter payloads
  rw [hcount, hvalue, mul_one_div] at hlength
  rw [mapIdx_lineEvent htime] at hperforms
  exact ⟨_, _, _, pitches_eq_ok hsteps, scale_eq_ok _ _, hlength,
    Music.perform_result_iff.mpr hperforms⟩

/-- The pitches of the octave ascend, from one tonic to the next. -/
theorem octaveEvents_ascend (context : Context) (hproper : Modes.Proper steps) :
    ((octaveEvents context steps).map Event.pitch).Pairwise (· < ·) ∧
    ∃ first last, (octaveEvents context steps).head? = some first ∧
      (octaveEvents context steps).getLast? = some last ∧ last.pitch = first.pitch + 12 := by
  refine ⟨?_, quarterEvent context 0 (octavePitch context steps 0),
    quarterEvent context steps.length (octavePitch context steps steps.length), ?_, ?_, ?_⟩
  · rw [octaveEvents, List.map_map, List.pairwise_map]
    refine List.pairwise_lt_range.imp fun {i j} hlt => ?_
    have hpitch := Modes.pitchOfDegree_lt hproper context.key.tonic octave (Int.ofNat_lt.mpr hlt)
    exact Int.add_lt_add_left hpitch _
  · rw [octaveEvents, List.head?_map, List.head?_range]
    rfl
  · rw [octaveEvents, List.range_succ, List.map_append, List.map_singleton, List.getLast?_concat]
  · have hoctave := Modes.pitchOfDegree_add_length hproper.ne_nil context.key.tonic 0 octave
    rw [Int.zero_add] at hoctave
    simp only [quarterEvent, octavePitch, hoctave]
    exact (Int.add_assoc _ _ _).symm

/-- The events of the octave are those of one ascending octave. -/
theorem octaveEvents_octave (hsteps : modes.steps context.key.mode = .ok steps)
    (hproper : Modes.Proper steps) : Octave modes context steps (octaveEvents context steps) := by
  obtain ⟨hascending, hcloses⟩ := octaveEvents_ascend context hproper
  refine ⟨hsteps, by simp [octaveEvents], ⟨octavePitch context steps, fun degree => ?_, rfl⟩,
    hascending, hcloses⟩
  rw [Modes.degree, hsteps]
  rfl

/-- All notes of the octave sound. -/
theorem octaveEvents_on : ∀ event ∈ octaveEvents context steps, event.on := by
  intro event hevent
  obtain ⟨degree, _, rfl⟩ := List.mem_map.mp hevent
  rfl

/-- The octave can be rendered, unless a time is too large for a double. -/
theorem renderAll_octave_safe (context : Context) (steps : List Int) :
    SafeUpTo True .ratioTooLarge (Event.renderAll (octaveEvents context steps)) := by
  refine .mapM fun event hevent => ?_
  obtain ⟨degree, _, rfl⟩ := List.mem_map.mp hevent
  exact (Ratio.ofValue_defined _).toBinary64_safe.bind fun _ _ =>
    (Ratio.ofValue_defined _).toBinary64_safe.bind fun _ _ =>
      (Ratio.ofValue_defined _).toBinary64_safe.bind_pure

/-- Under a context, the demo tells its scale and then of the octave. -/
theorem playUnder_eq (roster : Roster) (hcontext : context.Defined) (htime : context.time = .zero)
    (hsteps : modes.steps context.key.mode = .ok steps) :
    ∃ pitches piece outcome line,
      Demo.pitches modes context.key = .ok pitches ∧ scale context.volume pitches = .ok piece ∧
      (piece.perform (some roster) context).result = .ok outcome ∧
      outcome.events = octaveEvents context steps ∧
      piece.length = .ok (.ofValue ((steps.length + 1 : Nat) / 4)) ∧
      tellScale modes context.key = .ok line ∧
      (playUnder modes roster context).result =
        (tellPerformance piece outcome.events).result ∧
      account (playUnder modes roster context).entries =
        line :: account (tellPerformance piece outcome.events).entries := by
  obtain ⟨pitches, piece, elapsed, hpitches, hpiece, hlength, hperforms⟩ :=
    performs_octave (some roster) hcontext htime hsteps
  obtain ⟨line, hline⟩ : ∃ line, tellScale modes context.key = .ok line := by
    rw [tellScale, Modes.scale, hsteps]
    exact ⟨_, rfl⟩
  refine ⟨pitches, piece, _, line, hpitches, hpiece, hperforms, rfl, hlength, hline, ?_, ?_⟩
  · rw [playUnder, Recorded.lift_bind_of_ok hpitches, Recorded.lift_bind_of_ok hline,
      Recorded.result_bind_of_ok rfl, Recorded.lift_bind_of_ok hpiece,
      Recorded.result_bind_of_ok hperforms]
  · rw [playUnder, Recorded.lift_bind_of_ok hpitches, Recorded.lift_bind_of_ok hline,
      Recorded.entries_bind_of_ok rfl, Recorded.lift_bind_of_ok hpiece,
      Recorded.entries_bind_of_ok hperforms, account_append, account_append, account_perform]
    rfl

/-- The demo under a context that its configuration makes: the start is told, and then what is told
under the context. -/
theorem play_eq {read : Configuration.Reader} {text : Option String} {config : Configuration}
    (hload : (Configuration.load read text).result = .ok config)
    (hcontext : (config.context modes (some .standard)).result = .ok context) :
    (play modes read text).result = (playUnder modes .standard context).result ∧
      account (play modes read text).entries =
        "cadenza starting..." :: account (playUnder modes .standard context).entries := by
  constructor
  · rw [play, Recorded.result_bind_of_ok rfl, Recorded.result_bind_of_ok hload,
      Recorded.result_bind_of_ok hcontext]
  · rw [play, Recorded.entries_bind_of_ok rfl, Recorded.entries_bind_of_ok hload,
      Recorded.entries_bind_of_ok hcontext, account_append, account_append, account_append,
      account_eq_nil (load_enters read text), account_eq_nil (context_enters _ _ _)]
    rfl

/-- The demo comes to its end only with a context. -/
theorem exists_context_of_play {read : Configuration.Reader} {text : Option String}
    (hok : (play modes read text).result = .ok ()) :
    ∃ config context, (Configuration.load read text).result = .ok config ∧
      (config.context modes (some .standard)).result = .ok context := by
  simp only [play, Recorded.result_bind, bind_eq_ok_iff] at hok
  obtain ⟨_, _, config, hload, context, hcontext, _⟩ := hok
  exact ⟨config, context, hload, hcontext⟩

/-- The length of the octave has a double, for there are thirteen quarters at the most. -/
theorem exists_length_toBinary64 (hproper : Modes.Proper steps) :
    ∃ length, (Ratio.ofValue ((steps.length + 1 : Nat) / 4)).toBinary64 = .ok length := by
  have hsmall : ∀ n < 13, (((n + 1 : Nat) : Rat) / 4).num.natAbs < 2 ^ 52 := by decide +kernel
  have hle := hproper.length_le
  exact Ratio.exists_toBinary64_of_small (hsmall steps.length (by omega))

end Playing

/-- The demo plays one ascending octave, whatever modes were registered before, whatever the
configuration file holds and whatever document it is read as. It comes to its end only with a
context. Under every context that a configuration makes, the piece that it builds performs as the
octave of the key in quarter notes, at the scales, with the volume and on the channel of the
context; it comes to its end exactly when all times have doubles and all pitches are in range, and
then it has told its start, the scale, every event in order and the summary, which counts an event
for each degree and two messages for each event. Where all times have doubles and a pitch is out of
range, it is refused for a value. -/
theorem play_ascends_octave (calls : List (String × List Int)) (read : Configuration.Reader)
    (text : Option String) :
    let modes := Modes.standard.registerAll calls
    let demo := play modes read text
    (demo.result = .ok () → ∃ config context,
      (Configuration.load read text).result = .ok config ∧
      (config.context modes (some .standard)).result = .ok context) ∧
    ∀ config context, (Configuration.load read text).result = .ok config →
      (config.context modes (some .standard)).result = .ok context →
      ∃ pitches piece outcome steps line,
        Demo.pitches modes context.key = .ok pitches ∧ scale context.volume pitches = .ok piece ∧
        (piece.perform (some .standard) context).result = .ok outcome ∧
        Octave modes context steps outcome.events ∧ tellScale modes context.key = .ok line ∧
        TellsOf outcome.events (.ofValue ((steps.length + 1 : Nat) / 4))
          ["cadenza starting...", line] demo := by
  intro modes demo
  refine ⟨exists_context_of_play, fun config context hload hcontext => ?_⟩
  have hstandard : (modes.steps? Context.standard.key.mode).isSome :=
    Modes.isSome_steps?_registerAll (by decide) calls
  obtain ⟨_, _, hsets, husable⟩ := Configuration.sets_of_context hcontext hstandard
  obtain ⟨steps, hsteps⟩ := husable.mode
  have hproper : Modes.Proper steps :=
    Modes.registerAll_sound calls _ steps (Modes.steps_eq_ok_iff.mp hsteps)
  obtain ⟨pitches, piece, outcome, line, hpitches, hpiece, hperforms, hevents, hmeasure, hline,
    hresult, haccount⟩ := playUnder_eq .standard (husable.defined hsets.time) hsets.time hsteps
  obtain ⟨hplayResult, hplayAccount⟩ := play_eq hload hcontext
  obtain ⟨length, hlength⟩ := exists_length_toBinary64 hproper
  refine ⟨pitches, piece, outcome, steps, line, hpitches, hpiece, hperforms, ?_, hline, ?_⟩
  · exact hevents ▸ octaveEvents_octave hsteps hproper
  · rw [hevents] at hresult haccount ⊢
    have htells := TellsOf.tellPerformance hmeasure hlength octaveEvents_on
      (renderAll_octave_safe context steps)
    exact htells.after (hplayResult.trans hresult) (by rw [hplayAccount, haccount]; rfl)

/-- A configuration that asks for C major, played backwards by a player that nobody registered,
transposed by a number of semitones. -/
def backwardSection (semitones : Int) : Configuration :=
  [(.text "key", .text "C"), (.text "mode", .text "major"), (.text "delta_scale", .text "-1/2"),
   (.text "player", .text "Ghost"), (.text "pitch", .int semitones)]

/-- The text of a file with the configuration. -/
def backwardText (semitones : Int) : String :=
  "context:\n  key: C\n  mode: major\n  delta_scale: -1/2\n  player: Ghost\n  pitch: " ++
    toString semitones

/-- A reader that knows the file for some semitones, and no other one. -/
def readBackward (semitones : Int) : Configuration.Reader := fun text =>
  if text = backwardText semitones then
    pure (.mapping [(.text "context", .mapping (backwardSection semitones))])
  else throw .malformedDocument

/-- The demo with the file. -/
def playBackward (semitones : Int) : Journaled Unit :=
  play .standard (readBackward semitones) (some (backwardText semitones))

/-- The context of the file when it asks for 91 semitones. -/
def backwardContext : Context :=
  { Context.standard with
    player := ⟨.plain, "Ghost"⟩
    lengthScale := ⟨-1, 2⟩
    pitch := 91
    key := ⟨⟨0, by decide⟩, "major"⟩ }

/-- What is told of the notes under that context. -/
def backwardLines : List String := [
  "t=0.000 pitch=115 vol=127 dur=0.125 ch=1",
  "t=-0.125 pitch=117 vol=127 dur=0.125 ch=1",
  "t=-0.250 pitch=119 vol=127 dur=0.125 ch=1",
  "t=-0.375 pitch=120 vol=127 dur=0.125 ch=1",
  "t=-0.500 pitch=122 vol=127 dur=0.125 ch=1",
  "t=-0.625 pitch=124 vol=127 dur=0.125 ch=1",
  "t=-0.750 pitch=126 vol=127 dur=0.125 ch=1",
  "t=-0.875 pitch=127 vol=127 dur=0.125 ch=1"]

/-- The octave ends on the highest pitch in range, and a semitone higher it is refused. -/
theorem backwardText_plays :
    (∃ events, Octave .standard backwardContext [0, 2, 4, 5, 7, 9, 11] events ∧
      events.map Event.pitch = [115, 117, 119, 120, 122, 124, 126, 127]) ∧
    account (playBackward 91).entries =
      ["cadenza starting...", "Scale: major on pitch class 0 ([0, 2, 4, 5, 7, 9, 11])"] ++
        (backwardLines ++ ["8 events, 16 MIDI messages, 2.000 wholes"]) ∧
    (playBackward 92).result = .error (.pitchOutside 128 (.ofWord 0xBFEC000000000000)) := by
  have hmade : ((Configuration.load (readBackward 91) (some (backwardText 91))).result >>=
      fun config => (config.context .standard (some .standard)).result) = .ok backwardContext := by
    decide +kernel
  have hok : (playBackward 91).result = .ok () := by decide +kernel
  obtain ⟨config, hload, hcontext⟩ := bind_eq_ok_iff.mp hmade
  obtain ⟨_, hplays⟩ := play_ascends_octave [] (readBackward 91) (some (backwardText 91))
  obtain ⟨_, _, outcome, steps, line, _, _, _, hoctave, hline, htells⟩ :=
    hplays config backwardContext hload hcontext
  have hmajor : Modes.standard.steps backwardContext.key.mode = .ok [0, 2, 4, 5, 7, 9, 11] := by
    decide
  obtain rfl := Except.ok.inj (hmajor.symm.trans hoctave.mode)
  obtain ⟨pitch, hdegree, hnotes⟩ := hoctave.notes
  have hevents : outcome.events = octaveEvents backwardContext [0, 2, 4, 5, 7, 9, 11] := by
    rw [hnotes]
    refine List.map_congr_left fun degree _ => congrArg _ ?_
    exact Except.ok.inj ((hdegree degree).symm.trans rfl)
  refine ⟨⟨_, hoctave, by rw [hevents]; decide⟩, ?_, by decide +kernel⟩
  obtain ⟨rendered, length, hrendered, hlength, htold⟩ := htells.complete hok
  have hscale : tellScale .standard backwardContext.key =
      .ok "Scale: major on pitch class 0 ([0, 2, 4, 5, 7, 9, 11])" := by decide +kernel
  have htexts : List.map tellEvent <$> Event.renderAll outcome.events = .ok backwardLines := by
    rw [hevents]
    decide +kernel
  have hsummary : tellSummary 8 16 <$> Ratio.toBinary64 (.ofValue ((7 + 1 : Nat) / 4)) =
      .ok "8 events, 16 MIDI messages, 2.000 wholes" := by decide +kernel
  rw [hoctave.count] at htold
  rw [hrendered] at htexts
  rw [show Ratio.toBinary64 (.ofValue ((7 + 1 : Nat) / 4)) = .ok length from hlength] at hsummary
  calc account (playBackward 91).entries
      = ["cadenza starting...", line] ++ (rendered.map tellEvent ++ [tellSummary 8 16 length]) :=
        htold
    _ = _ := by
      rw [Except.ok.inj (hline.symm.trans hscale), Except.ok.inj htexts, Except.ok.inj hsummary]

end Demo

end Polyphony
