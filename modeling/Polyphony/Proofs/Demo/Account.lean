import Polyphony.Demo
import Polyphony.Proofs.Journal.Log
import Polyphony.Proofs.Journal.Safety
import Polyphony.Proofs.Message.Sounding
import Polyphony.Proofs.Performance.Requests

/-!
# The account of the demo

What the demo tells stands in the log among the lines of other parts of the program. A loop that
tells something of each item leaves these messages in order; the reading of a configuration and
performances tell nothing, whatever they leave in the log. Whether the account of a performance
comes to its end hangs on the times and the pitches of its events alone.
-/

namespace Polyphony

/-- A loop that enters something for each item leaves these entries. -/
theorem Recorded.forIn_enter {ε α : Type} (xs : List α) (f : α → ε) :
    (forIn xs PUnit.unit fun x _ => do
      enter (f x)
      pure (ForInStep.yield PUnit.unit)) = ⟨xs.map f, .ok PUnit.unit⟩ := by
  induction xs with
  | nil => rfl
  | cons x xs ih =>
    rw [List.forIn_cons, bind_assoc]
    simp only [pure_bind, ih]
    rfl

/-- What an entry tells of the demo. -/
def Entry.told? : Entry → Option String
  | told message => some message
  | _ => none

namespace Demo

/-- The messages of the demo in the log of a journal, in order. -/
def account (entries : List Entry) : List String :=
  ((writeLog [] entries).1.filter fun line => line.source = .demo).map Line.message

/-- The log has the messages of all entries that the demo told, and no others of the demo. -/
theorem messages_writeLog (warned : List String) (entries : List Entry) :
    ((writeLog warned entries).1.filter fun line => line.source = .demo).map Line.message =
      entries.filterMap Entry.told? := by
  induction entries generalizing warned with
  | nil => rfl
  | cons entry entries ih =>
    have hline : ((entry.line? warned).toList.filter fun line => line.source = .demo).map
        Line.message = entry.told?.toList := by
      cases entry with
      | request roster name =>
        rw [Entry.line?]
        split <;> rfl
      | _ => rfl
    rw [writeLog, List.filter_append, List.map_append, ih, hline, List.filterMap_cons]
    cases entry.told? <;> rfl

theorem account_eq (entries : List Entry) : account entries = entries.filterMap Entry.told? :=
  messages_writeLog [] entries

/-- Messages are told in the order of the journal. -/
theorem account_append (first second : List Entry) :
    account (first ++ second) = account first ++ account second := by
  rw [account_eq, account_eq, account_eq, List.filterMap_append]

/-- Entries that tell nothing of the demo. -/
theorem account_eq_nil {entries : List Entry} (hentries : ∀ entry ∈ entries, entry.told? = none) :
    account entries = [] := by
  rw [account_eq, List.filterMap_eq_nil_iff]
  exact hentries

theorem account_map_told {α : Type} (f : α → String) (xs : List α) :
    account (xs.map fun x => .told (f x)) = xs.map f := by
  rw [account_eq, List.filterMap_map]
  exact congrFun List.filterMap_eq_map xs

open Recorded

/-- Reading a configuration tells nothing of the demo. -/
theorem load_enters (read : Configuration.Reader) (text : Option String) :
    Enters (fun entry => entry.told? = none) (Configuration.load read text) := by
  cases text with
  | none => exact .bind (.enter rfl) fun _ => .pure _
  | some text =>
    refine .bind (.lift _) fun datum => ?_
    split
    · exact .pure _
    · exact .pure _
    · exact .throw _

theorem context_enters (modes : Modes) (roster : Option Roster) (config : Configuration) :
    Enters (fun entry => entry.told? = none) (config.context modes roster) := by
  refine .bind (.lift _) fun entries => .bind (.lift _) fun _ => .bind (.lift _) fun overrides => ?_
  cases overrides.player with
  | none => exact .bind (.enter rfl) fun _ => .pure _
  | some name => exact .bind (.enter rfl) fun _ => .bind (.enter rfl) fun _ => .pure _

/-- Performances tell nothing of the demo. -/
theorem account_perform (roster : Option Roster) (context : Context) (piece : Music Payload) :
    account (piece.perform roster context).entries = [] := by
  refine account_eq_nil fun entry hentry => ?_
  rw [Music.perform_eq_outcome] at hentry
  have hperforming := Music.outcome_enters roster context piece entry hentry
  cases entry with
  | told message => exact hperforming.elim
  | _ => rfl

/-- The events have doubles. -/
def Renderable (events : List Event) : Prop := ∃ rendered, Event.renderAll events = .ok rendered

/-- The pitches of the events are those that messages can carry. -/
def InRange (events : List Event) : Prop :=
  ∀ event ∈ events, 0 ≤ event.pitch ∧ event.pitch ≤ 127

section Performance

variable {piece : Music Payload} {events : List Event} {measure : Ratio} {length : Binary64}
  (hmeasure : piece.length = .ok measure) (hlength : measure.toBinary64 = .ok length)
include hmeasure hlength

/-- The account of a performance ends as its rendering and its messages do. -/
theorem tellPerformance_result :
    (tellPerformance piece events).result =
      (Event.renderAll events >>= fun _ =>
        Message.ofEvents Pace.standard events >>= fun _ => pure ()) := by
  rw [tellPerformance, result_bind, result_lift]
  refine bind_congr fun rendered => ?_
  rw [forIn_enter, result_bind_of_ok rfl, result_bind, result_lift]
  refine bind_congr fun messages => ?_
  rw [lift_bind_of_ok hmeasure, lift_bind_of_ok hlength]
  rfl

/-- The account of a performance that can be rendered and has messages. -/
theorem account_tellPerformance {rendered : List RenderedEvent} {messages : List Message}
    (hrendered : Event.renderAll events = .ok rendered)
    (hmessages : Message.ofEvents Pace.standard events = .ok messages) :
    account (tellPerformance piece events).entries =
      rendered.map tellEvent ++ [tellSummary events.length messages.length length] := by
  rw [tellPerformance, lift_bind_of_ok hrendered, forIn_enter, entries_bind_of_ok rfl,
    lift_bind_of_ok hmessages, lift_bind_of_ok hmeasure, lift_bind_of_ok hlength, account_append,
    account_map_told]
  rfl

section Sounding

variable (hon : ∀ event ∈ events, event.on)
include hon

/-- Notes that have doubles and are in range are told of to the end. -/
theorem exists_messages_of_inRange {rendered : List RenderedEvent}
    (hrendered : Event.renderAll events = .ok rendered) (hrange : InRange events) :
    ∃ messages, Message.ofEvents Pace.standard events = .ok messages ∧
      messages.length = 2 * events.length ∧ (tellPerformance piece events).result = .ok () := by
  obtain ⟨messages, hmessages, hcount⟩ := Message.exists_ofEvents_eq_ok
    Performance.secondsPerWhole_standard hrendered hon (by decide) (by decide) hrange
  refine ⟨messages, hmessages, hcount, ?_⟩
  rw [tellPerformance_result hmeasure hlength, hrendered, hmessages]
  rfl

/-- Notes that have doubles and of which one is out of range are refused. -/
theorem exists_tellPerformance_eq_error (hrenderable : Renderable events)
    (hrange : ¬ InRange events) :
    ∃ pitch time, (tellPerformance piece events).result = .error (.pitchOutside pitch time) := by
  obtain ⟨rendered, hrendered⟩ := hrenderable
  have hout : ∃ event ∈ events, ¬ (0 ≤ event.pitch ∧ event.pitch ≤ 127) := by
    simpa only [InRange, not_forall, exists_prop] using hrange
  obtain ⟨pitch, time, herror⟩ := Message.exists_ofEvents_eq_error
    Performance.secondsPerWhole_standard hrendered hon hout
  refine ⟨pitch, time, ?_⟩
  rw [tellPerformance_result hmeasure hlength, hrendered, herror]
  rfl

end Sounding

/-- Events whose times are too large for doubles are refused. -/
theorem tellPerformance_eq_error (hsafe : SafeUpTo True .ratioTooLarge (Event.renderAll events))
    (hnone : ¬ Renderable events) :
    (tellPerformance piece events).result = .error .ratioTooLarge := by
  rw [tellPerformance_result hmeasure hlength, (hsafe.resolve_left hnone).2]
  rfl

end Performance

/-- How the demo tells of events and of the length of their piece, after the lines of its front. -/
structure TellsOf (events : List Event) (measure : Ratio) (front : List String)
    (demo : Journaled Unit) : Prop where
  /-- It comes to its end when all times have doubles and all pitches are in range. -/
  ends : demo.result = .ok () ↔ Renderable events ∧ InRange events
  /-- By its end it has told of every event in order, and of all of them in the summary: there are
  two messages for each. -/
  complete : demo.result = .ok () → ∃ rendered length,
    Event.renderAll events = .ok rendered ∧ measure.toBinary64 = .ok length ∧
    account demo.entries = front ++ ((rendered.map fun event =>
      "t=" ++ event.time.fixed 3 ++ " pitch=" ++ toString event.pitch ++
        " vol=" ++ toString event.volume ++ " dur=" ++ event.duration.fixed 3 ++
        " ch=" ++ toString event.channel.number) ++
      [toString events.length ++ " events, " ++ toString (2 * events.length) ++
        " MIDI messages, " ++ length.fixed 3 ++ " wholes"])
  /-- Where all times have doubles and a pitch is out of range, it is refused for a value. -/
  outside : Renderable events → ¬ InRange events → ∃ fault,
    demo.result = .error fault ∧ fault.kind = .value
  /-- Where a time has no double, it is too large for one. -/
  tooLarge : ¬ Renderable events → ∃ fault,
    demo.result = .error fault ∧ fault.kind = .overflow

/-- What tells of events tells of them after more lines, too. -/
theorem TellsOf.after {events : List Event} {measure : Ratio} {front : List String}
    {telling demo : Journaled Unit} (htells : TellsOf events measure [] telling)
    (hresult : demo.result = telling.result)
    (haccount : account demo.entries = front ++ account telling.entries) :
    TellsOf events measure front demo where
  ends := hresult ▸ htells.ends
  complete hok := by
    obtain ⟨rendered, length, hrendered, hlength, htold⟩ := htells.complete (hresult ▸ hok)
    exact ⟨rendered, length, hrendered, hlength, by rw [haccount, htold, List.nil_append]⟩
  outside := hresult ▸ htells.outside
  tooLarge := hresult ▸ htells.tooLarge

/-- The account of a performance tells of its events, where all of them sound and have times that
are too large for doubles at the worst. -/
theorem TellsOf.tellPerformance {piece : Music Payload} {events : List Event} {measure : Ratio}
    {length : Binary64} (hmeasure : piece.length = .ok measure)
    (hlength : measure.toBinary64 = .ok length) (hon : ∀ event ∈ events, event.on)
    (hsafe : SafeUpTo True .ratioTooLarge (Event.renderAll events)) :
    TellsOf events measure [] (tellPerformance piece events) := by
  have hends (hok : (Demo.tellPerformance piece events).result = .ok ()) :
      Renderable events ∧ InRange events := by
    have hrenderable : Renderable events := by
      by_contra hnone
      have herror := tellPerformance_eq_error hmeasure hlength hsafe hnone
      exact absurd (hok.symm.trans herror) (by simp)
    refine ⟨hrenderable, ?_⟩
    by_contra hrange
    obtain ⟨pitch, time, herror⟩ :=
      exists_tellPerformance_eq_error hmeasure hlength hon hrenderable hrange
    exact absurd (hok.symm.trans herror) (by simp)
  refine ⟨⟨hends, ?_⟩, fun hok => ?_, fun hrenderable hrange => ?_, fun hnone => ?_⟩
  · rintro ⟨⟨rendered, hrendered⟩, hrange⟩
    obtain ⟨_, _, _, hok⟩ := exists_messages_of_inRange hmeasure hlength hon hrendered hrange
    exact hok
  · obtain ⟨⟨rendered, hrendered⟩, hrange⟩ := hends hok
    obtain ⟨messages, hmessages, hcount, _⟩ :=
      exists_messages_of_inRange hmeasure hlength hon hrendered hrange
    refine ⟨rendered, length, hrendered, hlength, ?_⟩
    rw [account_tellPerformance hmeasure hlength hrendered hmessages, hcount]
    rfl
  · obtain ⟨pitch, time, herror⟩ :=
      exists_tellPerformance_eq_error hmeasure hlength hon hrenderable hrange
    exact ⟨_, herror, rfl⟩
  · exact ⟨_, tellPerformance_eq_error hmeasure hlength hsafe hnone, rfl⟩

end Demo

end Polyphony
