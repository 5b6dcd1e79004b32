import Polyphony.Proofs.Configuration.Refusal
import Polyphony.Proofs.Mode.Registry
import Polyphony.Proofs.Performance.Totality
import Polyphony.Proofs.Ratio.Reading
import Polyphony.Proofs.Session.Roster

/-!
# Settings of a configuration

What a configuration that is not refused changes, and what it leaves alone. Each field of the
context hangs on its own key: with the key it is read from the value, and without the key it is that
of the standard context. The context that comes out is fit for performing, because a ratio that is
read is in lowest terms and the modes of the standard context stay registered; what is left to fail
for is the room on the stack.
-/

namespace Polyphony

/-- A ratio that is read is in lowest terms. -/
theorem Ratio.lowestTerms_of_ofDatum {datum : Datum} {r : Ratio} (hread : ofDatum datum = .ok r) :
    r.LowestTerms := by
  unfold ofDatum at hread
  split at hread
  case h_1 => exact lowestTerms_of_ofText hread
  case h_2 =>
    obtain ⟨_, rfl⟩ := reduced_eq_ok_iff.mp hread
    exact ofValue_lowestTerms _
  case h_3 => exact absurd hread (by simp)

/-- A channel that was asked for has the number that it was asked for by. -/
theorem Channel.number_of_request {k : Int} {channel : Channel}
    (hrequest : request k = .ok channel) : channel.number = k := by
  unfold request at hrequest
  split at hrequest
  case isTrue hrange =>
    rw [ofInt, dif_pos hrange, pure_eq_ok_iff] at hrequest
    rw [← hrequest]
    simp only [number]
    omega
  case isFalse => exact absurd hrequest (by simp)

/-- Channels are numbered from one. -/
theorem Channel.number_range (channel : Channel) : 1 ≤ channel.number ∧ channel.number ≤ 16 := by
  have hlt := channel.index.isLt
  unfold number
  omega

/-- Pitch classes are numbered from zero. -/
theorem PitchClass.number_range (tonic : PitchClass) : 0 ≤ tonic.number ∧ tonic.number ≤ 11 := by
  have hlt := tonic.isLt
  unfold number
  omega

/-- The pitch class of a note name is one that the table has for it. -/
theorem PitchClass.mem_noteNames {name : String} {pitchClass : PitchClass}
    (hname : ofNoteName name = .ok pitchClass) : (name, pitchClass) ∈ noteNames := by
  unfold ofNoteName at hname
  split at hname
  case h_1 entry hfound =>
    have hsame : entry.1 = name := by simpa using List.find?_some hfound
    rw [← hsame, ← pure_eq_ok_iff.mp hname]
    exact List.mem_of_find?_eq_some hfound
  case h_2 => exact absurd hname (by simp)

namespace Configuration

/-- A value is what the datum of a key of the section means, or is the standard one where the key is
absent. -/
def Settles {α : Type} (entries : Configuration) (key : String) (means : Datum → α → Prop)
    (standard value : α) : Prop :=
  match Datum.lookup? entries (.text key) with
  | none => value = standard
  | some datum => means datum value

/-- The fields of a context are those that a section sets, each by its own key, and otherwise the
standard ones. -/
structure Sets (roster : Roster) (entries : Configuration) (context : Context) : Prop where
  /-- The time cannot be set. -/
  time : context.time = .zero
  /-- The volume is an integer. -/
  volume : Settles entries "volume" (fun datum volume => datum.toInteger = .ok volume)
    Context.standard.volume context.volume
  /-- The scale of durations is a ratio. -/
  durationScale : Settles entries "duration_scale"
    (fun datum scale => Ratio.ofDatum datum = .ok scale)
    Context.standard.durationScale context.durationScale
  /-- The scale of lengths is a ratio. -/
  lengthScale : Settles entries "delta_scale" (fun datum scale => Ratio.ofDatum datum = .ok scale)
    Context.standard.lengthScale context.lengthScale
  /-- The transposition is an integer. -/
  pitch : Settles entries "pitch" (fun datum pitch => datum.toInteger = .ok pitch)
    Context.standard.pitch context.pitch
  /-- The channel has an integer for its number. -/
  channel : Settles entries "instrument" (fun datum number => datum.toInteger = .ok number)
    Context.standard.channel.number context.channel.number
  /-- The tonic is the pitch class that the table of note names has for a name. -/
  tonic : Settles entries "key" (fun datum tonic => (datum.display, tonic) ∈ PitchClass.noteNames)
    Context.standard.key.tonic context.key.tonic
  /-- The mode has a name. -/
  mode : Settles entries "mode" (fun datum name => name = datum.display)
    Context.standard.key.mode context.key.mode
  /-- The player is the one that the roster finds. -/
  player : Settles entries "player" (fun datum player => player = roster.find datum.display)
    Context.standard.player context.player

/-- A context from which every performance can start. -/
structure Usable (modes : Modes) (context : Context) : Prop where
  /-- The scale of lengths is in lowest terms. -/
  lengthScale : context.lengthScale.LowestTerms
  /-- The scale of durations is in lowest terms. -/
  durationScale : context.durationScale.LowestTerms
  /-- The channel is one of sixteen. -/
  channel : 1 ≤ context.channel.number ∧ context.channel.number ≤ 16
  /-- The tonic is one of twelve pitch classes. -/
  tonic : 0 ≤ context.key.tonic.number ∧ context.key.tonic.number ≤ 11
  /-- The mode is registered. -/
  mode : ∃ steps, modes.steps context.key.mode = .ok steps

section Settles

variable {α β : Type} {entries : Configuration} {key : String} {means : Datum → α → Prop}
  {standard value : α}

/-- A field that is read, with the standard value in the place of an absent one, is settled. -/
theorem settles_of_readField {read : Datum → Except Fault α} {found : Option α}
    (hread : readField entries key read = .ok found) (standard : α) :
    Settles entries key (fun datum a => read datum = .ok a) standard (found.getD standard) := by
  rw [readField] at hread
  rw [Settles]
  cases hlookup : Datum.lookup? entries (.text key) with
  | none =>
    simp only [hlookup, pure_eq_ok_iff] at hread ⊢
    rw [← hread]
    rfl
  | some datum =>
    simp only [hlookup] at hread ⊢
    cases hvalue : read datum with
    | error fault => simp [hvalue] at hread
    | ok a =>
      simp only [hvalue, pure_eq_ok_iff] at hread
      rw [← hread]
      rfl

/-- What a settled value is settles what is made of it. -/
theorem Settles.imp {means' : Datum → β → Prop} {f : α → β}
    (hsettles : Settles entries key means standard value)
    (hmeans : ∀ datum a, means datum a → means' datum (f a)) :
    Settles entries key means' (f standard) (f value) := by
  unfold Settles at *
  split at hsettles
  case h_1 => exact congrArg f hsettles
  case h_2 datum _ => exact hmeans datum value hsettles

/-- What holds of the standard value and of every value that a datum means holds of a settled
one. -/
theorem Settles.holds {good : α → Prop} (hsettles : Settles entries key means standard value)
    (hstandard : good standard) (hmeans : ∀ datum a, means datum a → good a) : good value := by
  unfold Settles at hsettles
  split at hsettles
  case h_1 => exact hsettles ▸ hstandard
  case h_2 datum _ => exact hmeans datum value hsettles

end Settles

section Reading

variable {modes : Modes} {entries : Configuration} {overrides : Overrides}

/-- The parts of the key of a context are read one by one, whether or not the other is there. -/
theorem settles_of_readKey {found : Option Key} (hread : readKey modes entries = .ok found) :
    Settles entries "key" (fun datum tonic => PitchClass.ofNoteName datum.display = .ok tonic)
        Context.standard.key.tonic (found.getD Context.standard.key).tonic ∧
      Settles entries "mode" (fun datum name => readMode modes datum = .ok name)
        Context.standard.key.mode (found.getD Context.standard.key).mode := by
  simp only [readKey, bind_eq_ok_iff] at hread
  obtain ⟨tonic, htonic, mode, hmode, hkey⟩ := hread
  have htonic := settles_of_readField htonic Context.standard.key.tonic
  have hmode := settles_of_readField hmode Context.standard.key.mode
  split at hkey
  case isTrue hneither =>
    obtain ⟨hnotonic, hnomode⟩ := Bool.and_eq_true_iff.mp hneither
    rw [Option.isNone_iff_eq_none.mp hnotonic] at htonic
    rw [Option.isNone_iff_eq_none.mp hnomode] at hmode
    rw [← pure_eq_ok_iff.mp hkey]
    exact ⟨htonic, hmode⟩
  case isFalse =>
    rw [← pure_eq_ok_iff.mp hkey]
    exact ⟨htonic, hmode⟩

/-- A mode is read as its name, and is registered. -/
theorem readMode_eq_ok_iff {datum : Datum} {name : String} :
    readMode modes datum = .ok name ↔
      datum.display = name ∧ ∃ steps, modes.steps name = .ok steps := by
  simp only [readMode, bind_eq_ok_iff, pure_eq_ok_iff]
  constructor
  · rintro ⟨steps, hsteps, rfl⟩
    exact ⟨rfl, steps, hsteps⟩
  · rintro ⟨rfl, steps, hsteps⟩
    exact ⟨steps, hsteps, rfl⟩

/-- The context of the fields that were read is the one that the section sets, and it is fit for
performing where the mode of the standard context is registered. -/
theorem context_of_readOverrides (roster : Roster)
    (hread : readOverrides modes entries = .ok overrides)
    (hstandard : (modes.steps? Context.standard.key.mode).isSome) :
    Sets roster entries (overrides.context roster) ∧ Usable modes (overrides.context roster) := by
  simp only [readOverrides, bind_eq_ok_iff, pure_eq_ok_iff] at hread
  obtain ⟨volume, hvolume, durationScale, hduration, lengthScale, hlength, pitch, hpitch, channel,
    hchannel, key, hkey, rfl⟩ := hread
  obtain ⟨htonic, hmode⟩ := settles_of_readKey hkey
  have hduration := settles_of_readField hduration Context.standard.durationScale
  have hlength := settles_of_readField hlength Context.standard.lengthScale
  have hchannel := settles_of_readField hchannel Context.standard.channel
  refine ⟨⟨rfl, settles_of_readField hvolume _, hduration, hlength, settles_of_readField hpitch _,
    ?_, ?_, ?_, ?_⟩, ?_⟩
  · refine hchannel.imp fun datum found hfound => ?_
    obtain ⟨k, hk, hrequest⟩ := bind_eq_ok_iff.mp hfound
    rw [hk, Channel.number_of_request hrequest]
  · exact htonic.imp (f := id) fun datum tonic => PitchClass.mem_noteNames
  · exact hmode.imp (f := id) fun datum name hname => (readMode_eq_ok_iff.mp hname).1.symm
  · unfold Settles
    cases Datum.lookup? entries (.text "player") with
    | none => rfl
    | some datum => rfl
  · obtain ⟨standardSteps, hsteps⟩ := Option.isSome_iff_exists.mp hstandard
    refine ⟨?_, ?_, ?_, ?_, ?_⟩
    · exact hlength.holds (Ratio.ofValue_lowestTerms 1) fun _ _ => Ratio.lowestTerms_of_ofDatum
    · have hhalf : Context.standard.durationScale.LowestTerms := ⟨by decide, by decide⟩
      exact hduration.holds hhalf fun _ _ => Ratio.lowestTerms_of_ofDatum
    · exact Channel.number_range _
    · exact PitchClass.number_range _
    · exact hmode.holds ⟨standardSteps, Modes.steps_eq_ok_iff.mpr hsteps⟩
        fun _ _ hname => (readMode_eq_ok_iff.mp hname).2

end Reading

/-- A usable context that starts at time zero is defined. -/
theorem Usable.defined {modes : Modes} {context : Context} (husable : Usable modes context)
    (htime : context.time = .zero) : context.Defined where
  time := htime ▸ Ratio.zero_defined
  lengthScale := husable.lengthScale.defined
  durationScale := husable.durationScale.defined

/-- The context of a configuration that is not refused is the one that its section sets, or an empty
section in its place, and it is fit for performing where the mode of the standard context is
registered. -/
theorem sets_of_context {modes : Modes} {roster : Option Roster} {config : Configuration}
    {context : Context} (hcontext : (config.context modes roster).result = .ok context)
    (hstandard : (modes.steps? Context.standard.key.mode).isSome) :
    ∃ entries, (section? config = some (.mapping entries) ∨ entries = [] ∧ config.Blank) ∧
      Sets (roster.getD .standard) entries context ∧ Usable modes context := by
  rw [context_result] at hcontext
  obtain ⟨entries, hentries, hread⟩ := bind_eq_ok_iff.mp hcontext
  obtain ⟨overrides, hsection, hmade⟩ := bind_eq_ok_iff.mp hread
  obtain ⟨_, _, hoverrides⟩ := bind_eq_ok_iff.mp hsection
  rw [← pure_eq_ok_iff.mp hmade]
  exact ⟨entries, (contextSection_ends config).ok hentries,
    context_of_readOverrides (roster.getD .standard) hoverrides hstandard⟩

/-- A configuration with a section sets what the section names. -/
theorem entries_eq_of_ofSection {named entries : Configuration}
    (hsection : section? (ofSection (.mapping named)) = some (.mapping entries) ∨
      entries = [] ∧ (ofSection (.mapping named)).Blank) : entries = named := by
  have hfound : section? (ofSection (.mapping named)) = some (.mapping named) := rfl
  obtain hmapping | ⟨rfl, hblank⟩ := hsection
  · simpa using hmapping.symm.trans hfound
  · exact (List.isEmpty_iff.mp (hblank _ hfound)).symm

/-- A section that leaves out the tonic, the volume and the scale of lengths, and asks for a mode of
five steps, for a player that nobody registered and for a scale out of lowest terms. -/
def ghostSection : Configuration :=
  [(.text "mode", .text "hirajoshi"), (.text "player", .text "Ghost"),
   (.text "duration_scale", .text "-6|8"), (.text "instrument", .text "16"),
   (.text "pitch", .bool true)]

/-- The context that the section makes. -/
def ghostContext : Context where
  time := ⟨0, 1⟩
  player := ⟨.plain, "Ghost"⟩
  lengthScale := ⟨1, 1⟩
  pitch := 1
  volume := 127
  durationScale := ⟨-3, 4⟩
  channel := ⟨.last 15⟩
  key := ⟨Context.standard.key.tonic, "hirajoshi"⟩

/-- A section that asks for a tonic and for nothing else. -/
def sharpSection : Configuration := [(.text "key", .text "F#")]

/-- The context of that section, six semitones above C in the standard mode. -/
def sharpContext : Context := { Context.standard with key := ⟨⟨6, by decide⟩, "phrygian"⟩ }

end Configuration

end Polyphony
