import Polyphony.Control

/-!
# Kinds of attributes

Phrase attributes by what they ask for. Dynamics make new volumes and articulations new durations;
of the dynamics, the ramps look at all events of a phrase to shape one of them.
-/

namespace Polyphony

namespace PhraseAttribute

/-- The amount of an attribute. -/
def amount : PhraseAttribute → Ratio
  | accent amount | crescendo amount | diminuendo amount | staccato amount | legato amount => amount

/-- The attribute makes new volumes. -/
def Dynamic : PhraseAttribute → Prop
  | accent _ | crescendo _ | diminuendo _ => True
  | staccato _ | legato _ => False

/-- The attribute draws a ramp of volumes across the phrase. -/
def Ramp : PhraseAttribute → Prop
  | crescendo _ | diminuendo _ => True
  | accent _ | staccato _ | legato _ => False

instance : DecidablePred Dynamic
  | accent _ | crescendo _ | diminuendo _ => inferInstanceAs (Decidable True)
  | staccato _ | legato _ => inferInstanceAs (Decidable False)

instance : DecidablePred Ramp
  | crescendo _ | diminuendo _ => inferInstanceAs (Decidable True)
  | accent _ | staccato _ | legato _ => inferInstanceAs (Decidable False)

end PhraseAttribute

namespace Control

/-- Every attribute that the control carries is of a kind. -/
def EachAttribute (kind : PhraseAttribute → Prop) : Control → Prop
  | phrase attributes => ∀ attr ∈ attributes, kind attr
  | _ => True

/-- The control carries an attribute of a kind. -/
def HasAttribute (kind : PhraseAttribute → Prop) : Control → Prop
  | phrase attributes => ∃ attr ∈ attributes, kind attr
  | _ => False

instance (kind : PhraseAttribute → Prop) [DecidablePred kind] : DecidablePred (EachAttribute kind)
  | phrase attributes => inferInstanceAs (Decidable (∀ attr ∈ attributes, kind attr))
  | tempo _ | transpose _ | instrument _ | key _ | custom _ | stray _ =>
    inferInstanceAs (Decidable True)

instance (kind : PhraseAttribute → Prop) [DecidablePred kind] : DecidablePred (HasAttribute kind)
  | phrase attributes => inferInstanceAs (Decidable (∃ attr ∈ attributes, kind attr))
  | tempo _ | transpose _ | instrument _ | key _ | custom _ | stray _ =>
    inferInstanceAs (Decidable False)

end Control

end Polyphony
