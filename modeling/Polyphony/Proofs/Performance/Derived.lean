import Polyphony.Performance.Control
import Polyphony.Proofs.Music.Control

/-!
# Contexts derived by controls

The context under a control as a plain function of the context above it, and the conditions on
which there is one. What a control does to one field of the context it does whatever stands in the
other fields, and a control that sets a field leaves the others alone.
-/

namespace Polyphony

namespace Context

/-- The time and both scales have values. -/
structure Defined (context : Context) : Prop where
  /-- The time has a value. -/
  time : context.time.Defined
  /-- The scale of lengths has a value. -/
  lengthScale : context.lengthScale.Defined
  /-- The scale of durations has a value. -/
  durationScale : context.durationScale.Defined

theorem standard_defined : standard.Defined := by constructor <;> decide

theorem advanced_eq_ok_iff {context later : Context} {elapsed : Ratio} :
    context.advanced elapsed = .ok later ↔
      context.time.Defined ∧ elapsed.Defined ∧
        later = { context with time := .ofValue (context.time.value + elapsed.value) } := by
  simp only [advanced, bind_eq_ok_iff, Ratio.add_eq_ok_iff, pure_eq_ok_iff]
  constructor
  · rintro ⟨time, ⟨htime, helapsed, rfl⟩, rfl⟩
    exact ⟨htime, helapsed, rfl⟩
  · rintro ⟨htime, helapsed, rfl⟩
    exact ⟨_, ⟨htime, helapsed, rfl⟩, rfl⟩

/-- The player after a directive: the one that it summons, if it names one and there is a roster to
ask, and the one before it otherwise. -/
def summoned (roster : Option Roster) (context : Context) (directive : String) : Player :=
  match Performance.directedPlayer? directive, roster with
  | some name, some roster => roster.find name
  | _, _ => context.player

/-- A directive always has a context, in which only the player may differ. -/
theorem directed_result (roster : Option Roster) (context : Context) (directive : String) :
    (context.directed roster directive).result =
      .ok (context.withPlayer (context.summoned roster directive)) := by
  unfold directed summoned
  cases Performance.directedPlayer? directive with
  | none => simp [withPlayer]
  | some name =>
    cases roster with
    | none => simp [withPlayer]
    | some roster => simp

/-- The conditions on which a control derives a context. -/
def Admits (context : Context) : Control → Prop
  | .tempo ratio => context.lengthScale.Defined ∧ context.durationScale.Defined ∧ ratio.numer ≠ 0
  | .stray _ => False
  | _ => True

/-- The context that a control derives. -/
def derived (roster : Option Roster) (context : Context) : Control → Context
  | .tempo ratio => { context with
      lengthScale := .ofValue (context.lengthScale.value / ratio.value)
      durationScale := .ofValue (context.durationScale.value / ratio.value) }
  | .transpose steps => context.transposed steps
  | .instrument channel => context.withChannel channel
  | .key key => context.withKey key
  | .phrase _ => context
  | .custom directive => context.withPlayer (context.summoned roster directive)
  | .stray _ => context

theorem withTempo_eq_ok_iff {context inner : Context} {ratio : Ratio} :
    context.withTempo ratio = .ok inner ↔
      context.Admits (.tempo ratio) ∧ inner = context.derived none (.tempo ratio) := by
  simp only [withTempo, bind_eq_ok_iff, Ratio.div_eq_ok_iff, pure_eq_ok_iff]
  constructor
  · rintro ⟨lengthScale, ⟨hlength, hratio, rfl⟩, durationScale, ⟨hduration, _, rfl⟩, rfl⟩
    exact ⟨⟨hlength, hduration, hratio⟩, rfl⟩
  · rintro ⟨⟨hlength, hduration, hratio⟩, rfl⟩
    exact ⟨_, ⟨hlength, hratio, rfl⟩, _, ⟨hduration, hratio, rfl⟩, rfl⟩

/-- The context under a control is the derived one, where there is one. -/
theorem under_eq_ok_iff {roster : Option Roster} {context inner : Context} {control : Control} :
    (context.under roster control).result = .ok inner ↔
      context.Admits control ∧ inner = context.derived roster control := by
  cases control with
  | tempo ratio => exact withTempo_eq_ok_iff
  | custom directive => simp [under, directed_result, Admits, derived, eq_comm]
  | stray number => simp [under, Admits]
  | _ => simp [under, Admits, derived, eq_comm]

section Fields

variable (roster : Option Roster) (context : Context) (control : Control)

@[simp] theorem derived_time : (context.derived roster control).time = context.time := by
  cases control <;> rfl

@[simp] theorem derived_volume : (context.derived roster control).volume = context.volume := by
  cases control <;> rfl

@[simp] theorem derived_pitch :
    (context.derived roster control).pitch = context.pitch + control.shift := by
  cases control <;> simp [derived, Control.shift, transposed, withChannel, withKey, withPlayer]

@[simp] theorem derived_channel :
    (context.derived roster control).channel = control.channel?.getD context.channel := by
  cases control <;> rfl

@[simp] theorem derived_lengthScale_value :
    (context.derived roster control).lengthScale.value =
      context.lengthScale.value / control.speed := by
  cases control <;> simp [derived, Control.speed, transposed, withChannel, withKey, withPlayer]

@[simp] theorem derived_durationScale_value :
    (context.derived roster control).durationScale.value =
      context.durationScale.value / control.speed := by
  cases control <;> simp [derived, Control.speed, transposed, withChannel, withKey, withPlayer]

end Fields

section Changes

variable (change : Context → Context) (context : Context)

/-- A change of contexts that leaves the time alone may be made before or after the time goes on. -/
theorem advanced_change (htime : (change context).time = context.time)
    (hset : ∀ time, change { context with time } = { change context with time }) (elapsed : Ratio) :
    (change context).advanced elapsed = change <$> context.advanced elapsed := by
  rw [advanced, advanced, htime]
  cases context.time.add elapsed with
  | error fault => rfl
  | ok time => exact congrArg Except.ok (hset time).symm

/-- A change of contexts that leaves the scales alone may be made above or below a tempo. -/
theorem under_tempo_change (hlength : (change context).lengthScale = context.lengthScale)
    (hduration : (change context).durationScale = context.durationScale)
    (hset : ∀ lengthScale durationScale, change { context with lengthScale, durationScale } =
      { change context with lengthScale, durationScale })
    (roster : Option Roster) (ratio : Ratio) :
    (change context).under roster (.tempo ratio) =
      change <$> context.under roster (.tempo ratio) := by
  simp only [under, withTempo]
  rw [hlength, hduration]
  cases context.lengthScale.div ratio with
  | error fault => rfl
  | ok lengthScale =>
    cases context.durationScale.div ratio with
    | error fault => rfl
    | ok durationScale =>
      exact congrArg (Recorded.mk [] <| Except.ok ·) (hset lengthScale durationScale).symm

/-- A change of contexts that leaves the time and the player alone may be made above or below a
directive. -/
theorem directed_change (htime : (change context).time = context.time)
    (hset : ∀ player, change (context.withPlayer player) = (change context).withPlayer player)
    (roster : Option Roster) (directive : String) :
    (change context).directed roster directive = change <$> context.directed roster directive := by
  unfold directed
  cases Performance.directedPlayer? directive with
  | none => rfl
  | some name =>
    cases roster with
    | none => rfl
    | some roster =>
      rw [htime]
      exact congrArg (Recorded.mk _ <| Except.ok ·) (hset (roster.find name)).symm

end Changes

/-- Derived contexts of defined ones are defined. -/
theorem Defined.derived {context : Context} (hcontext : context.Defined)
    (roster : Option Roster) (control : Control) : (context.derived roster control).Defined := by
  obtain ⟨htime, hlength, hduration⟩ := hcontext
  cases control with
  | tempo ratio => exact ⟨htime, Ratio.ofValue_defined _, Ratio.ofValue_defined _⟩
  | _ => exact ⟨htime, hlength, hduration⟩

end Context

end Polyphony
