import Polyphony.Context
import Polyphony.Event

/-!
# Playing notes

A note becomes one event at the time of its context. The attributes of the note are applied from
the last to the first, so that the first one has the last word.
-/

namespace Polyphony

namespace Payload

/-- The pitch of a note. -/
def basePitch : Payload → Int
  | pitch p => p
  | loud p _ => p
  | marked p _ => p

/-- The attributes of a note. A volume given with the pitch is one. -/
def attributes : Payload → List NoteAttribute
  | pitch _ => []
  | loud _ volume => [.volume volume]
  | marked _ attributes => attributes

end Payload

namespace Player

/-- Applies one attribute to the event of its note. Fingerings and dynamic marks change nothing. -/
def applyNoteAttribute (event : Event) : NoteAttribute → Event
  | .volume value => { event with volume := value }
  | .params values => { event with params := values }
  | .fingering _ => event
  | .dynamics _ => event

/-- Applies attributes from the last to the first. -/
def applyNoteAttributes (attributes : List NoteAttribute) (event : Event) : Event :=
  attributes.foldr (fun attr event => applyNoteAttribute event attr) event

/-- The event of a note. -/
def playNote (context : Context) (length : Ratio) (payload : Payload) : Except Fault Event := do
  let scaled ← context.lengthScale.mul length
  let duration ← context.durationScale.mul length
  return applyNoteAttributes payload.attributes {
    time := context.time
    pitch := context.pitch + payload.basePitch
    volume := context.volume
    length := scaled
    duration := duration
    channel := context.channel
    on := true
    params := []
  }

end Player

end Polyphony
