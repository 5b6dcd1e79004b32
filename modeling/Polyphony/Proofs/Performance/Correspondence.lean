import Mathlib.Data.List.Perm.Basic
import Polyphony.Proofs.Music.Leaves
import Polyphony.Proofs.Performance.Definedness

/-!
# Events and their notes

Every note of a piece sounds exactly once in a performance, as the event that its place calls for:
what its event is depends on the nodes above it and on nothing that happens beside it, but for the
time that earlier pieces of a line take. Interleaving only changes the order of the events, so the
correspondence is kept up to a permutation of the notes.
-/

namespace Polyphony

namespace Context

/-- The context of the part below a node and the times that pass before it. On the right of a line,
that is the time that the left piece takes in the context of the line. -/
def within (roster : Option Roster) (context : Context) :
    Ancestor Payload → Except Fault (Context × List Ratio)
  | .seqRight left => do
    let before ← (left.perform roster context).result
    return (← context.advanced before.elapsed, [before.elapsed])
  | .under control => do
    return (← (context.under roster control).result, [])
  | .seqLeft | .parLeft | .parRight => .ok (context, [])

/-- The times that pass before the end of a path, from the outermost node on. -/
def timesBefore (roster : Option Roster) : Context → List (Ancestor Payload) →
    Except Fault (List Ratio)
  | _, [] => .ok []
  | context, ancestor :: path => do
    let (inner, times) ← context.within roster ancestor
    return times ++ (← inner.timesBefore roster path)

/-- What a node changes in the context of its part. -/
structure Entered (context : Context) (ancestor : Ancestor Payload) (inner : Context)
    (times : List Ratio) : Prop where
  /-- The part starts when what comes before it is over. -/
  time : inner.time.value = context.time.value + (times.map Ratio.value).sum
  /-- The part is shifted. -/
  pitch : inner.pitch = context.pitch + ancestor.shift
  /-- The part is on the channel that the node sets. -/
  channel : inner.channel = ancestor.channel?.getD context.channel
  /-- The part is as much faster as the node makes it. -/
  lengthScale : inner.lengthScale.value = context.lengthScale.value / ancestor.speed
  /-- Its notes sound as much shorter. -/
  durationScale : inner.durationScale.value = context.durationScale.value / ancestor.speed
  /-- The volume is that outside. -/
  volume : inner.volume = context.volume

/-- Every way into a part makes its own change and no other. -/
theorem entered_of_within {roster : Option Roster} {context inner : Context}
    {ancestor : Ancestor Payload} {times : List Ratio}
    (hwithin : context.within roster ancestor = .ok (inner, times)) :
    context.Entered ancestor inner times := by
  cases ancestor with
  | seqRight left =>
    obtain ⟨before, _, hlater, rfl⟩ := by simpa [within] using hwithin
    obtain ⟨_, _, rfl⟩ := advanced_eq_ok_iff.mp hlater
    constructor <;> simp [Ancestor.shift, Ancestor.channel?, Ancestor.speed]
  | under control =>
    obtain ⟨hunder, rfl⟩ := by simpa [within] using hwithin
    obtain ⟨_, rfl⟩ := under_eq_ok_iff.mp hunder
    constructor <;> simp [Ancestor.shift, Ancestor.channel?, Ancestor.speed]
  | seqLeft | parLeft | parRight =>
    obtain ⟨rfl, rfl⟩ := by simpa [within] using hwithin
    constructor <;> simp [Ancestor.shift, Ancestor.channel?, Ancestor.speed]

end Context

/-- A note sounds as an event in a performance that starts from a context. -/
structure Leaf.Sounds (roster : Option Roster) (context : Context) (leaf : Leaf Payload)
    (event : Event) : Prop where
  /-- The note starts when all that comes before it in a line is over. -/
  time : ∃ times, context.timesBefore roster leaf.path = .ok times ∧ event.time.Defined ∧
    event.time.value = context.time.value + (times.map Ratio.value).sum
  /-- The length is scaled, and divided by the tempo. -/
  length : event.length.Defined ∧
    event.length.value = leaf.length.value * context.lengthScale.value / leaf.speed
  /-- The pitch is transposed. -/
  pitch : event.pitch = context.pitch + leaf.shift + leaf.payload.basePitch
  /-- The innermost channel counts. -/
  channel : event.channel = leaf.channel?.getD context.channel
  /-- The first attribute with further numbers gives them. -/
  params : event.params = leaf.payload.params?.getD []
  /-- The event starts a note. -/
  on : event.on = true
  /-- Outside phrases, the duration is scaled like the length. -/
  duration : ¬ leaf.Phrased → event.duration.Defined ∧
    event.duration.value = leaf.length.value * context.durationScale.value / leaf.speed
  /-- Outside phrases, the payload sets the volume, or else the context. -/
  volume : ¬ leaf.Phrased → event.volume = leaf.payload.volume?.getD context.volume

namespace Leaf.Sounds

variable {roster : Option Roster} {context inner : Context} {leaf : Leaf Payload} {event : Event}

/-- A note on its own sounds as the event that it is played as. -/
theorem noteEvent (hcontext : context.Defined) (length : Ratio) (payload : Payload) :
    Sounds roster context ⟨[], length, payload⟩ (Player.noteEvent context length payload) where
  time := ⟨[], rfl, hcontext.time, by simp [Player.noteEvent]⟩
  length := ⟨Ratio.ofValue_defined _, by simp [Player.noteEvent, speed, mul_comm]⟩
  pitch := by simp [Player.noteEvent, shift]
  channel := rfl
  params := rfl
  on := rfl
  duration _ := ⟨Ratio.ofValue_defined _, by simp [Player.noteEvent, speed, mul_comm]⟩
  volume _ := rfl

/-- A note of a part sounds in the whole as it does in the part. -/
theorem below {ancestor : Ancestor Payload} {times : List Ratio}
    (hsounds : leaf.Sounds roster inner event)
    (hwithin : context.within roster ancestor = .ok (inner, times)) :
    (leaf.below ancestor).Sounds roster context event := by
  have hentered := Context.entered_of_within hwithin
  obtain ⟨later, hlater, htime, htimeValue⟩ := hsounds.time
  constructor
  · refine ⟨times ++ later, ?_, htime, ?_⟩
    · simp [Context.timesBefore, hwithin, hlater]
    · rw [htimeValue, hentered.time, List.map_append, List.sum_append, add_assoc]
  · refine ⟨hsounds.length.1, ?_⟩
    rw [hsounds.length.2, hentered.lengthScale, below_length, below_speed, mul_div_assoc',
      div_div]
  · rw [hsounds.pitch, hentered.pitch, below_shift, below_payload, ← add_assoc]
  · rw [hsounds.channel, hentered.channel, below_channel?, Option.getD_or]
  · exact hsounds.params
  · exact hsounds.on
  · intro hplain
    obtain ⟨hdefined, hvalue⟩ := hsounds.duration (mt (Phrased.below · ancestor) hplain)
    refine ⟨hdefined, ?_⟩
    rw [hvalue, hentered.durationScale, below_length, below_speed, mul_div_assoc', div_div]
  · intro hplain
    rw [hsounds.volume (mt (Phrased.below · ancestor) hplain), hentered.volume, below_payload]

/-- In a phrase, a note sounds as its event whatever the phrase reshapes. -/
theorem of_core {shaped : Event} (hsounds : leaf.Sounds roster context event)
    (hphrased : leaf.Phrased) (hcore : shaped.core = event.core) :
    leaf.Sounds roster context shaped := by
  have htime : shaped.time = event.time := (congrArg Event.time hcore :)
  have hlength : shaped.length = event.length := (congrArg Event.length hcore :)
  constructor
  · rw [htime]
    exact hsounds.time
  · rw [hlength]
    exact hsounds.length
  · exact (congrArg Event.pitch hcore).trans hsounds.pitch
  · exact (congrArg Event.channel hcore).trans hsounds.channel
  · exact (congrArg Event.params hcore).trans hsounds.params
  · exact (congrArg Event.on hcore).trans hsounds.on
  · exact fun hplain => absurd hphrased hplain
  · exact fun hplain => absurd hphrased hplain

end Leaf.Sounds

/-- Notes and events correspond one to one, in some order of the notes. -/
def Corresponds (roster : Option Roster) (context : Context) (leaves : List (Leaf Payload))
    (events : List Event) : Prop :=
  ∃ order, order.Perm leaves ∧ List.Forall₂ (Leaf.Sounds roster context) order events

namespace Corresponds

variable {roster : Option Roster} {context inner : Context}

/-- Two correspondences make one. -/
theorem append {left right : List (Leaf Payload)} {l r : List Event}
    (hleft : Corresponds roster context left l) (hright : Corresponds roster context right r) :
    Corresponds roster context (left ++ right) (l ++ r) := by
  obtain ⟨leftOrder, hleftPerm, hleftSounds⟩ := hleft
  obtain ⟨rightOrder, hrightPerm, hrightSounds⟩ := hright
  exact ⟨leftOrder ++ rightOrder, hleftPerm.append hrightPerm,
    List.rel_append hleftSounds hrightSounds⟩

/-- The order of the events does not matter. -/
theorem perm {leaves : List (Leaf Payload)} {events reordered : List Event}
    (hcorresponds : Corresponds roster context leaves events) (hperm : reordered.Perm events) :
    Corresponds roster context leaves reordered := by
  obtain ⟨order, horder, hsounds⟩ := hcorresponds
  obtain ⟨reorder, hreordered, hreorder⟩ := List.perm_comp_forall₂ hperm hsounds.flip
  exact ⟨reorder, hreorder.trans horder, hreordered.flip⟩

/-- The notes of a part correspond to the same events in the whole. -/
theorem below {leaves : List (Leaf Payload)} {events : List Event} {ancestor : Ancestor Payload}
    {times : List Ratio} (hcorresponds : Corresponds roster inner leaves events)
    (hwithin : context.within roster ancestor = .ok (inner, times)) :
    Corresponds roster context (leaves.map (Leaf.below ancestor)) events := by
  obtain ⟨order, horder, hsounds⟩ := hcorresponds
  refine ⟨order.map (Leaf.below ancestor), horder.map _, ?_⟩
  exact List.forall₂_map_left_iff.mpr (hsounds.imp fun _ _ hevent => hevent.below hwithin)

/-- The notes of a phrase correspond to its reshaped events. -/
theorem of_map_core {leaves : List (Leaf Payload)} {events shaped : List Event}
    (hcorresponds : Corresponds roster context leaves events)
    (hphrased : ∀ leaf ∈ leaves, leaf.Phrased)
    (hcore : shaped.map Event.core = events.map Event.core) :
    Corresponds roster context leaves shaped := by
  obtain ⟨order, horder, hsounds⟩ := hcorresponds
  refine ⟨order, horder, ?_⟩
  have hphrasedOrder : ∀ leaf ∈ order, leaf.Phrased :=
    fun leaf hleaf => hphrased leaf (horder.mem_iff.mp hleaf)
  clear horder
  induction hsounds generalizing shaped with
  | nil =>
    obtain rfl : shaped = [] := by simpa using hcore
    exact .nil
  | cons hevent hrest ih =>
    obtain ⟨first, rest, rfl, hfirst, hrestCore⟩ := List.map_eq_cons_iff.mp hcore
    rw [List.forall_mem_cons] at hphrasedOrder
    exact .cons (hevent.of_core hphrasedOrder.1 hfirst) (ih hrestCore hphrasedOrder.2)

end Corresponds

/-- The notes of a piece correspond to the events of its performance. -/
theorem Performs.corresponds {roster : Option Roster} {context : Context}
    {piece : Music Payload} {outcome : Outcome} (hperforms : Performs roster context piece outcome)
    (hcontext : context.Defined) (hroster : roster.isSome) :
    Corresponds roster context piece.leaves outcome.events := by
  induction hperforms with
  | note helapsed hevent =>
    obtain ⟨_, _, _, rfl⟩ := Player.playNote_eq_ok_iff.mp hevent
    exact ⟨_, .refl _, .cons (.noteEvent hcontext _ _) .nil⟩
  | rest helapsed => exact ⟨[], .nil, .nil⟩
  | @seq context later left right l r outcome hleft hlater hright hjoin ihleft ihright =>
    have hl := ihleft hcontext
    have hr := ihright (hcontext.advanced hlater)
    obtain ⟨_, _, rfl⟩ := Outcome.followedBy_eq_ok_iff.mp hjoin
    have hlaterWithin : context.within roster (.seqRight left) = .ok (later, [l.elapsed]) := by
      simp [Context.within, Music.perform_result_iff.mpr hleft, hlater]
    exact (hl.below rfl).append (hr.below hlaterWithin)
  | par hleft hright hjoin ihleft ihright =>
    have hl := ihleft hcontext
    have hr := ihright hcontext
    obtain rfl := Outcome.eq_of_together hjoin
    exact ((hl.below rfl).append (hr.below rfl)).perm (Performance.interleave_perm _ _)
  | @phrase context attributes body outcome shaped _ hbody hshaped ih =>
    have hbody := ih hcontext
    have hcore := Player.map_core_of_applyPhraseAttributes hshaped
    refine Corresponds.of_map_core (hbody.below rfl) ?_ hcore
    exact List.forall_mem_map.mpr fun leaf _ => Leaf.phrased_below_phrase attributes leaf
  | silence hnone => simp [hnone] at hroster
  | @modify context inner control body outcome hphrase hunder hbody ih =>
    have hinner := ih (hcontext.under hunder)
    have hwithin : context.within roster (.under control) = .ok (inner, []) := by
      simp [Context.within, hunder]
    exact hinner.below hwithin

end Polyphony
