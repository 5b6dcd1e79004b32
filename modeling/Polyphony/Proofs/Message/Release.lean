import Polyphony.Proofs.Message.Events
import Polyphony.Proofs.Performance.Machine

/-!
# Notes are released

Where every sounding note takes time in doubles, its release comes after its attack, and then no end
of the messages switches a note on more often than off. But where a note takes no time, the rule
that notes are switched off before others are switched on applies to the note itself: it is switched
off first and stays on.
-/

namespace Polyphony

namespace Message

/-- The message switches a note of a channel on, or off. -/
def switches (switch : Switch) (channel : Int) (note : Int) (message : Message) : Bool :=
  message.switch = switch && message.channel = channel && message.note = note

/-- No note is left on: every end of the messages switches it off as often as on, or more often. -/
def Released (messages : List Message) : Prop :=
  ∀ channel note rest, rest <:+ messages →
    rest.countP (switches .on channel note) ≤ rest.countP (switches .off channel note)

/-- The message attacks a note, at a rank or above it. -/
def attacksFrom (bound : Int) (channel : Int) (note : Int) (message : Message) : Bool :=
  switches .on channel note message && bound ≤ message.rank

/-- The message releases a note, above a rank. -/
def releasesAbove (bound : Int) (channel : Int) (note : Int) (message : Message) : Bool :=
  switches .off channel note message && bound < message.rank

/-- An attack and a later release of one note: above any rank there is the release if there is the
attack. -/
theorem countP_pair_le {attack release : Message} (hon : attack.switch = .on)
    (hoff : release.switch = .off) (hchannel : release.channel = attack.channel)
    (hnote : release.note = attack.note) (hrank : attack.rank < release.rank)
    (bound : Int) (channel : Int) (note : Int) :
    [attack, release].countP (attacksFrom bound channel note) ≤
      [attack, release].countP (releasesAbove bound channel note) := by
  simp only [List.countP_cons, List.countP_nil, attacksFrom, releasesAbove, switches, hon, hoff,
    hchannel, hnote]
  grind

/-- Where every event is released after its attack, there are at least as many releases above a rank
as attacks from that rank on. -/
theorem countP_attacks_le {pace : Binary64} {events : List RenderedEvent}
    (hlater : ∀ event ∈ events, event.on →
      (event.attack pace).rank < (event.release pace).rank)
    (bound : Int) (channel : Int) (note : Int) :
    (events.flatMap (RenderedEvent.messages pace)).countP (attacksFrom bound channel note) ≤
      (events.flatMap (RenderedEvent.messages pace)).countP
        (releasesAbove bound channel note) := by
  induction events with
  | nil => exact Nat.le_refl 0
  | cons event events ih =>
    obtain ⟨hevent, hrest⟩ := List.forall_mem_cons.mp hlater
    rw [List.flatMap_cons, List.countP_append, List.countP_append]
    refine Nat.add_le_add ?_ (ih hrest)
    unfold RenderedEvent.messages
    split
    case isTrue hon =>
      refine countP_pair_le ?_ ?_ ?_ ?_ (hevent hon) bound channel note <;> rfl
    case isFalse => exact Nat.le_refl 0

/-- The ends of messages in the order of ranks: what stands in front of an end has no higher rank
than its first message, so releases above that rank stand in the end. -/
theorem released_of_pairwise {messages : List Message}
    (hpairwise : messages.Pairwise fun a b => a.rank ≤ b.rank)
    (hcount : ∀ bound channel note, messages.countP (attacksFrom bound channel note) ≤
      messages.countP (releasesAbove bound channel note)) : Released messages := by
  rintro channel note rest ⟨front, rfl⟩
  cases rest with
  | nil => exact Nat.le_refl 0
  | cons first rest =>
    obtain ⟨_, hrest, hfront⟩ := List.pairwise_append.mp hpairwise
    have hfirst : ∀ message ∈ first :: rest, first.rank ≤ message.rank :=
      List.forall_mem_cons.mpr ⟨le_rfl, (List.pairwise_cons.mp hrest).1⟩
    have hattacks : ∀ message ∈ first :: rest, switches .on channel note message →
        attacksFrom first.rank channel note message := fun message hmessage hon =>
      Bool.and_eq_true_iff.mpr ⟨hon, decide_eq_true (hfirst message hmessage)⟩
    have hnone : front.countP (releasesAbove first.rank channel note) = 0 := by
      refine List.countP_eq_zero.mpr fun message hmessage habove => ?_
      have hlt := of_decide_eq_true (Bool.and_eq_true_iff.mp habove).2
      exact hlt.not_ge (hfront message hmessage first List.mem_cons_self)
    calc (first :: rest).countP (switches .on channel note)
        ≤ (first :: rest).countP (attacksFrom first.rank channel note) :=
          List.countP_mono_left hattacks
      _ ≤ (front ++ first :: rest).countP (attacksFrom first.rank channel note) :=
          (List.sublist_append_right _ _).countP_le
      _ ≤ (front ++ first :: rest).countP (releasesAbove first.rank channel note) :=
          hcount first.rank channel note
      _ = (first :: rest).countP (releasesAbove first.rank channel note) := by
          rw [List.countP_append, hnone, Nat.zero_add]
      _ ≤ (first :: rest).countP (switches .off channel note) :=
          List.countP_mono_left fun message _ habove => (Bool.and_eq_true_iff.mp habove).1

end Message

namespace Performance

/-- One note of a performance on the first channel. -/
def noteAt (time duration : Ratio) : Event where
  time := time
  pitch := 60
  volume := 127
  length := ⟨1, 4⟩
  duration := duration
  channel := .first
  on := true
  params := []

/-- A note that is struck again while it sounds. -/
def restruck : List Event := [noteAt .zero ⟨1, 2⟩, noteAt ⟨1, 4⟩ ⟨1, 2⟩]

/-- A note that is cut until it takes no time. -/
def clipped : Music Payload :=
  .modify (.phrase [.staccato .zero]) (.prim (.note ⟨1, 4⟩ (.pitch 60)))

/-- A note that takes no time. -/
def instant : List Event := [noteAt .zero .zero]

theorem perform_clipped :
    (clipped.perform (some .standard) .standard).result = .ok ⟨instant, ⟨1, 4⟩⟩ := by
  rw [Music.perform_eq_outcome]
  decide +kernel

theorem toBinary64_standard :
    Pace.toBinary64 Pace.standard = .ok (.ofWord 0x405E000000000000) := by decide +kernel

theorem div_standard : Pace.secondsAtOneBeat.div (.ofWord 0x405E000000000000) =
    .ofWord 0x4000000000000000 := by decide +kernel

/-- At the standard pace a whole note takes two seconds. -/
theorem secondsPerWhole_standard :
    Pace.secondsPerWhole Pace.standard = .ok (.ofWord 0x4000000000000000) := by
  have hbeats : Pace.standard.number? = some (.integer 120) := rfl
  rw [← div_standard]
  exact Pace.secondsPerWhole_eq_ok hbeats (by decide) toBinary64_standard

/-- The note that is struck again, in doubles. -/
def restruckRendered : List RenderedEvent :=
  [⟨.zero false, 60, 127, .ofWord 0x3FD0000000000000, .ofWord 0x3FE0000000000000, .first, true, []⟩,
   ⟨.ofWord 0x3FD0000000000000, 60, 127, .ofWord 0x3FD0000000000000, .ofWord 0x3FE0000000000000,
     .first, true, []⟩]

/-- Both attacks of the note that is struck again, and then both releases. -/
def restruckMessages : List Message :=
  [⟨.zero false, .on, 0, 60, 127⟩, ⟨.ofWord 0x3FE0000000000000, .on, 0, 60, 127⟩,
   ⟨.ofWord 0x3FF0000000000000, .off, 0, 60, 0⟩,
   ⟨.ofWord 0x3FF8000000000000, .off, 0, 60, 0⟩]

theorem ofEvents_restruck :
    Message.ofEvents Pace.standard restruck = .ok restruckMessages := by
  have hrendered : Event.renderAll restruck = .ok restruckRendered := by decide +kernel
  refine Message.ofEvents_eq_ok_iff.mpr
    ⟨_, _, secondsPerWhole_standard, hrendered, by decide, ?_⟩
  refine (Message.sorted_eq_of_perm ?_ ?_ ?_).symm <;> decide +kernel

/-- The release of the note that takes no time, and then its attack. -/
def instantMessages : List Message :=
  [⟨.zero false, .off, 0, 60, 0⟩, ⟨.zero false, .on, 0, 60, 127⟩]

theorem ofEvents_instant : Message.ofEvents Pace.standard instant = .ok instantMessages := by
  have hrendered : Event.renderAll instant =
      .ok [⟨.zero false, 60, 127, .ofWord 0x3FD0000000000000, .zero false, .first, true, []⟩] := by
    decide +kernel
  refine Message.ofEvents_eq_ok_iff.mpr
    ⟨_, _, secondsPerWhole_standard, hrendered, by decide, ?_⟩
  refine (Message.sorted_eq_of_perm ?_ ?_ ?_).symm <;> decide +kernel

end Performance

open Performance

/-- Of the messages of a performance whose durations are not negative, each sounding event has its
own two: the one that switches its note on and, if its moment is later as a double, after it the one
that switches the note off; at one and the same moment, the note is switched off first. So where
every sounding event takes time in doubles, no end of the messages leaves a note on. -/
theorem ofEvents_released {beats : Datum} {events : List Event} {pace : Binary64}
    {rendered : List RenderedEvent} {messages : List Message}
    (hpace : Pace.secondsPerWhole beats = .ok pace)
    (hrendered : Event.renderAll events = .ok rendered)
    (hdurations : ∀ event ∈ events, 0 ≤ event.duration.value)
    (hplaced : ∀ event ∈ rendered, event.on → event.Placed pace)
    (hok : Message.ofEvents beats events = .ok messages) :
    (∀ event ∈ rendered, event.on →
      (event.attack pace).seconds.lt (event.release pace).seconds ∧
          List.Sublist [event.attack pace, event.release pace] messages ∨
        (event.attack pace).seconds.eq (event.release pace).seconds ∧
          List.Sublist [event.release pace, event.attack pace] messages) ∧
      ((∀ event ∈ rendered, event.on →
          (event.attack pace).seconds.lt (event.release pace).seconds) →
        Message.Released messages) := by
  obtain ⟨_, _, hpace', hrendered', _, rfl⟩ := Message.ofEvents_eq_ok_iff.mp hok
  obtain rfl := Except.ok.inj (hpace.symm.trans hpace')
  obtain rfl := Except.ok.inj (hrendered.symm.trans hrendered')
  have hnumbers := RenderedEvent.isNaN_of_mem_messages hplaced
  have hforward : ∀ event ∈ rendered, event.Forward :=
    forall_mem_of_mapM_eq_ok (fun _ _ => Event.forward_of_rendered) hrendered hdurations
  refine ⟨fun event hevent hon => ?_, fun hlater => ?_⟩
  · have hpair := RenderedEvent.messages_sublist pace hevent hon
    have hle := (hforward event hevent).attack_le_release
      (Pace.negative_of_secondsPerWhole hpace) (hplaced event hevent hon)
    rcases Binary64.lt_or_eq_of_le hle with hlt | heq
    · have hrank := RenderedEvent.rank_lt_of_lt hlt
      exact .inl ⟨hlt, Message.pair_sublist_sorted hnumbers hrank.le hpair⟩
    · have hrank := RenderedEvent.rank_lt_of_eq heq
      have hattack := hpair.subset List.mem_cons_self
      have hrelease := hpair.subset (List.mem_cons_of_mem _ List.mem_cons_self)
      exact .inr ⟨heq, Message.pair_sublist_sorted_of_lt hnumbers hrank hrelease hattack⟩
  · refine Message.released_of_pairwise (Message.pairwise_sorted hnumbers) ?_
    intro bound channel note
    rw [(Message.sorted_perm hnumbers).countP_eq, (Message.sorted_perm hnumbers).countP_eq]
    exact Message.countP_attacks_le
      (fun event hevent hon => RenderedEvent.rank_lt_of_lt (hlater event hevent hon)) bound channel
      note

/-- The note that is struck again while it sounds is released as often as it is attacked. -/
theorem restruck_released :
    Message.ofEvents Pace.standard restruck = .ok restruckMessages ∧
      (∀ event ∈ restruck, 0 ≤ event.duration.value) ∧ Message.Released restruckMessages := by
  have hrendered : Event.renderAll restruck = .ok restruckRendered := by decide +kernel
  have hdurations : ∀ event ∈ restruck, 0 ≤ event.duration.value := by decide +kernel
  have hreleased := ofEvents_released secondsPerWhole_standard hrendered hdurations
    (by decide +kernel) ofEvents_restruck
  exact ⟨ofEvents_restruck, hdurations, hreleased.2 (by decide +kernel)⟩

/-- The note that takes no time is left on: it is switched off before it is switched on. -/
theorem instant_not_released :
    (clipped.perform (some .standard) .standard).result = .ok ⟨instant, ⟨1, 4⟩⟩ ∧
      Message.ofEvents Pace.standard instant = .ok instantMessages ∧
      (∀ event ∈ instant, 0 ≤ event.duration.value) ∧ ¬ Message.Released instantMessages := by
  refine ⟨perform_clipped, ofEvents_instant, by decide +kernel, fun hreleased => ?_⟩
  have hlast := hreleased 0 60 _ (List.suffix_cons _ _)
  exact absurd hlast (by decide)

end Polyphony
