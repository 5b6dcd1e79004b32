import Polyphony.Player.Phrase
import Polyphony.Proofs.Ratio.Comparison

/-!
# What a phrase keeps

Phrase attributes reshape volumes and durations. This file proves that nothing else about the
events of a phrase changes: neither their number and order nor any other field.
-/

namespace Polyphony

/-- An event without what a phrase may reshape. -/
def Event.core (event : Event) : Event := { event with volume := 0, duration := .zero }

/-- What one attribute may make of an event. -/
inductive Event.Retouched (event : Event) : Event → Prop where
  /-- The event is left alone. -/
  | same : Retouched event event
  /-- The event has another volume. -/
  | volume (volume : Int) : Retouched event { event with volume }
  /-- The duration of the event is scaled. -/
  | duration {amount duration : Ratio} (hmul : event.duration.mul amount = .ok duration) :
      Retouched event { event with duration }

theorem Event.Retouched.core_eq {event shaped : Event} (hretouched : event.Retouched shaped) :
    shaped.core = event.core := by
  cases hretouched <;> rfl

namespace Player

/-- The rate of a ramp: the share of their level by which volumes change in a unit of time. -/
def slope (falling : Bool) (amount elapsed : Ratio) : Rat :=
  if falling then -(amount.value / elapsed.value) else amount.value / elapsed.value

/-- An event put on a ramp. -/
def onRamp (start rate : Ratio) (event : Event) : Except Fault Event := do
  return { event with volume := ← rampVolume start rate event.time event.volume }

/-- The rate of a ramp, as it is calculated. -/
def rampRate (falling : Bool) (amount elapsed : Ratio) : Except Fault Ratio := do
  let rate ← amount.div elapsed
  if falling then rate.neg else pure rate

theorem rampRate_eq_ok_iff {falling : Bool} {amount elapsed rate : Ratio} :
    rampRate falling amount elapsed = .ok rate ↔
      amount.Defined ∧ elapsed.numer ≠ 0 ∧ rate = .ofValue (slope falling amount elapsed) := by
  simp only [rampRate, bind_eq_ok_iff, Ratio.div_eq_ok_iff]
  constructor
  · rintro ⟨quotient, ⟨hamount, hnumer, rfl⟩, hrate⟩
    refine ⟨hamount, hnumer, ?_⟩
    cases falling with
    | false => exact (pure_eq_ok_iff.mp hrate).symm
    | true =>
      obtain ⟨_, rfl⟩ := Ratio.neg_eq_ok_iff.mp hrate
      rw [Ratio.value_ofValue]
      rfl
  · rintro ⟨hamount, hnumer, rfl⟩
    refine ⟨_, ⟨hamount, hnumer, rfl⟩, ?_⟩
    cases falling with
    | false => rfl
    | true =>
      refine Ratio.neg_eq_ok_iff.mpr ⟨Ratio.ofValue_defined _, ?_⟩
      rw [Ratio.value_ofValue]
      rfl

/-- A ramp with time to rise in puts every event on one slope from the first event on. -/
theorem ramp_cons (falling : Bool) (amount elapsed : Ratio) (first : Event) (rest : List Event) :
    ramp falling amount elapsed (first :: rest) = (do
      let still ← elapsed.eq .zero
      if still then pure (first :: rest)
      else rampRate falling amount elapsed >>= fun rate =>
        (first :: rest).mapM (onRamp first.time rate)) := by
  simp only [ramp, rampRate, bind_assoc]
  cases falling <;> rfl

/-- A ramp over events either has no time to rise in, or puts each of them on one slope from the
first event on. -/
theorem ramp_cons_eq_ok_iff {falling : Bool} {amount elapsed : Ratio} {first : Event}
    {rest shaped : List Event} :
    ramp falling amount elapsed (first :: rest) = .ok shaped ↔
      elapsed.Defined ∧
        (elapsed.value = 0 ∧ shaped = first :: rest ∨
          elapsed.value ≠ 0 ∧ amount.Defined ∧
            (first :: rest).mapM (onRamp first.time (.ofValue (slope falling amount elapsed))) =
              .ok shaped) := by
  simp only [ramp_cons, bind_eq_ok_iff, Ratio.eq_eq_ok_iff, Ratio.zero_defined, Ratio.value_zero,
    true_and]
  constructor
  · rintro ⟨still, ⟨helapsed, rfl⟩, hrest⟩
    refine ⟨helapsed, ?_⟩
    by_cases hstill : elapsed.value = 0
    · rw [if_pos (by simpa using hstill), pure_eq_ok_iff] at hrest
      exact Or.inl ⟨hstill, hrest.symm⟩
    · rw [if_neg (by simpa using hstill)] at hrest
      obtain ⟨rate, hrate, hmap⟩ := bind_eq_ok_iff.mp hrest
      obtain ⟨hamount, _, rfl⟩ := rampRate_eq_ok_iff.mp hrate
      exact Or.inr ⟨hstill, hamount, hmap⟩
  · rintro ⟨helapsed, ⟨hstill, rfl⟩ | ⟨hmoving, hamount, hmap⟩⟩
    · exact ⟨true, ⟨helapsed, by simpa using hstill⟩, rfl⟩
    · refine ⟨false, ⟨helapsed, by simpa using hmoving⟩, ?_⟩
      have hnumer : elapsed.numer ≠ 0 := mt helapsed.numer_eq_zero_iff.mp hmoving
      exact bind_eq_ok_iff.mpr ⟨_, rampRate_eq_ok_iff.mpr ⟨hamount, hnumer, rfl⟩, hmap⟩

/-- An attribute does one of four things to the events of a phrase: it leaves them alone, scales
their volumes, scales their durations or puts them on a ramp. Which one depends on the player and on
the attribute only. -/
theorem applyPhraseAttribute_cases (player : Player) (attr : PhraseAttribute) :
    (∀ elapsed events, player.applyPhraseAttribute elapsed events attr = .ok events) ∨
    (∃ amount, ∀ elapsed events,
      player.applyPhraseAttribute elapsed events attr = accent amount events) ∨
    (∃ amount, ∀ elapsed events,
      player.applyPhraseAttribute elapsed events attr = articulate amount events) ∨
    ∃ falling amount, ∀ elapsed events,
      player.applyPhraseAttribute elapsed events attr = ramp falling amount elapsed events := by
  cases attr with
  | accent amount => exact .inr (.inl ⟨amount, fun _ _ => rfl⟩)
  | staccato amount => exact .inr (.inr (.inl ⟨amount, fun _ _ => rfl⟩))
  | legato amount => exact .inr (.inr (.inl ⟨amount, fun _ _ => rfl⟩))
  | crescendo amount =>
    cases hstyle : player.style with
    | plain => exact .inl fun _ _ => by simp [applyPhraseAttribute, hstyle, pure, Except.pure]
    | fancy =>
      exact .inr (.inr (.inr ⟨false, amount, fun _ _ => by simp [applyPhraseAttribute, hstyle]⟩))
  | diminuendo amount =>
    cases hstyle : player.style with
    | plain => exact .inl fun _ _ => by simp [applyPhraseAttribute, hstyle, pure, Except.pure]
    | fancy =>
      exact .inr (.inr (.inr ⟨true, amount, fun _ _ => by simp [applyPhraseAttribute, hstyle]⟩))

/-- A single attribute retouches event by event. -/
theorem forall₂_retouched {player : Player} {elapsed : Ratio} {attr : PhraseAttribute}
    {events shaped : List Event}
    (hshaped : player.applyPhraseAttribute elapsed events attr = .ok shaped) :
    List.Forall₂ Event.Retouched events shaped := by
  have hsteady (events : List Event) : List.Forall₂ Event.Retouched events events :=
    List.forall₂_same.mpr fun _ _ => .same
  obtain hsame | ⟨amount, haccent⟩ | ⟨amount, harticulate⟩ | ⟨falling, amount, hramp⟩ :=
    applyPhraseAttribute_cases player attr
  · obtain rfl := Except.ok.inj ((hsame elapsed events).symm.trans hshaped)
    exact hsteady events
  · rw [haccent] at hshaped
    refine (mapM_eq_ok_iff.mp hshaped).imp fun event result hresult => ?_
    obtain ⟨volume, _, rfl⟩ := by simpa using hresult
    exact .volume volume
  · rw [harticulate] at hshaped
    refine (mapM_eq_ok_iff.mp hshaped).imp fun event result hresult => ?_
    obtain ⟨duration, hmul, rfl⟩ := by simpa using hresult
    exact .duration hmul
  · rw [hramp] at hshaped
    cases events with
    | nil =>
      obtain rfl : [] = shaped := by simpa [ramp] using hshaped
      exact .nil
    | cons first rest =>
      obtain ⟨_, ⟨_, rfl⟩ | ⟨_, _, hmap⟩⟩ := ramp_cons_eq_ok_iff.mp hshaped
      · exact hsteady (first :: rest)
      · refine (mapM_eq_ok_iff.mp hmap).imp fun event result hresult => ?_
        obtain ⟨volume, _, rfl⟩ := by simpa [onRamp] using hresult
        exact .volume volume

/-- Attributes before others are applied after them. -/
theorem applyPhraseAttributes_append (player : Player) (elapsed : Ratio) (events : List Event)
    (first second : List PhraseAttribute) :
    player.applyPhraseAttributes elapsed events (first ++ second) = (do
      let events ← player.applyPhraseAttributes elapsed events second
      player.applyPhraseAttributes elapsed events first) := by
  induction first with
  | nil => simp only [List.nil_append, applyPhraseAttributes, bind_pure]
  | cons attr first ih => simp only [List.cons_append, applyPhraseAttributes, ih, bind_assoc]

/-- All attributes of a phrase together keep the cores of its events. -/
theorem map_core_of_applyPhraseAttributes {player : Player} {elapsed : Ratio}
    {attributes : List PhraseAttribute} {events shaped : List Event}
    (hshaped : player.applyPhraseAttributes elapsed events attributes = .ok shaped) :
    shaped.map Event.core = events.map Event.core := by
  induction attributes generalizing shaped with
  | nil =>
    obtain rfl : events = shaped := by simpa [applyPhraseAttributes] using hshaped
    rfl
  | cons attr attributes ih =>
    obtain ⟨between, hbetween, hlast⟩ := bind_eq_ok_iff.mp hshaped
    have hcores : List.Forall₂ (· = ·) (between.map Event.core) (shaped.map Event.core) := by
      rw [List.forall₂_map_left_iff, List.forall₂_map_right_iff]
      exact (forall₂_retouched hlast).imp fun _ _ hretouched => hretouched.core_eq.symm
    rw [List.forall₂_eq_eq_eq] at hcores
    rw [← hcores, ih hbetween]

/-- What survives a new volume and a scaled duration of one event survives a phrase. -/
theorem forall_mem_of_applyPhraseAttributes {kind : Event → Prop}
    (hvolume : ∀ event volume, kind event → kind { event with volume })
    (hduration : ∀ event amount duration, kind event → event.duration.mul amount = .ok duration →
      kind { event with duration })
    {player : Player} {elapsed : Ratio} {attributes : List PhraseAttribute}
    {events shaped : List Event}
    (hshaped : player.applyPhraseAttributes elapsed events attributes = .ok shaped)
    (hevents : ∀ event ∈ events, kind event) : ∀ event ∈ shaped, kind event := by
  induction attributes generalizing shaped with
  | nil =>
    obtain rfl : events = shaped := by simpa [applyPhraseAttributes] using hshaped
    exact hevents
  | cons attr attributes ih =>
    obtain ⟨between, hbetween, hlast⟩ := bind_eq_ok_iff.mp hshaped
    have hboth := (List.forall₂_and_left _ _).mpr ⟨ih hbetween, forall₂_retouched hlast⟩
    refine forall_mem_of_forall₂ ?_ hboth
    rintro event _ ⟨hkind, _ | volume | hmul⟩
    · exact hkind
    · exact hvolume event volume hkind
    · exact hduration event _ _ hkind hmul

end Player

/-- What holds of all events and does not look at what a phrase reshapes holds of all events after
the reshaping. -/
theorem Event.forall_mem_of_map_core {events shaped : List Event} {kind : Event → Prop}
    (hcore : shaped.map Event.core = events.map Event.core)
    (hkind : ∀ event, kind event.core ↔ kind event) (hevents : ∀ event ∈ events, kind event) :
    ∀ event ∈ shaped, kind event := by
  have hcores : ∀ core ∈ shaped.map Event.core, kind core := by
    rw [hcore]
    exact List.forall_mem_map.mpr fun event hevent => (hkind event).mpr (hevents event hevent)
  exact fun event hevent => (hkind event).mp (List.forall_mem_map.mp hcores event hevent)

end Polyphony
