import Polyphony.Proofs.Music.Attribute
import Polyphony.Proofs.Music.Condition
import Polyphony.Proofs.Performance.Derived
import Polyphony.Proofs.Performance.Recasting

/-!
# What is not heard

No player looks at a key, so the keys of a piece and of its context are never heard. Of its player a
context hears only how it shapes the attributes of phrases, and no more of it once a directive has
called another one. A piece may thus be stripped of its keys and given to a player that shapes its
phrases alike: it is performed with the same events, faults and log.
-/

namespace Polyphony

/-- The players shape events alike by every attribute of a kind. -/
def Player.AgreesOn (kind : PhraseAttribute → Prop) (player other : Player) : Prop :=
  ∀ attr, kind attr → ∀ elapsed events,
    other.applyPhraseAttribute elapsed events attr =
      player.applyPhraseAttribute elapsed events attr

namespace Player

variable {kind : PhraseAttribute → Prop} {player other : Player}

theorem agreesOn_self (kind : PhraseAttribute → Prop) (player : Player) :
    player.AgreesOn kind player :=
  fun _ _ _ _ => rfl

/-- Players of any style shape events alike where they draw no ramp. -/
theorem agreesOn_steady (player other : Player) :
    player.AgreesOn (fun attr => ¬ attr.Ramp) other := by
  intro attr hsteady elapsed events
  cases attr with
  | crescendo amount => exact absurd trivial hsteady
  | diminuendo amount => exact absurd trivial hsteady
  | _ => rfl

/-- Players that agree on all attributes of a phrase shape its events alike. -/
theorem AgreesOn.applyPhraseAttributes_eq (hagree : player.AgreesOn kind other)
    {attributes : List PhraseAttribute} (hkind : ∀ attr ∈ attributes, kind attr) (elapsed : Ratio)
    (events : List Event) :
    other.applyPhraseAttributes elapsed events attributes =
      player.applyPhraseAttributes elapsed events attributes := by
  induction attributes with
  | nil => rfl
  | cons attr attributes ih =>
    obtain ⟨hattr, hrest⟩ := List.forall_mem_cons.mp hkind
    rw [applyPhraseAttributes, applyPhraseAttributes, ih hrest]
    exact bind_congr fun between => hagree attr hattr elapsed between

end Player

namespace Music

variable {α : Type}

/-- The piece without its keys. -/
def keyless : Music α → Music α
  | prim primitive => prim primitive
  | seq left right => seq left.keyless right.keyless
  | par left right => par left.keyless right.keyless
  | modify (.key _) body => body.keyless
  | modify control body => modify control body.keyless
  | stray number => stray number

theorem keyless_modify {control : Control} (hkey : ∀ key, control ≠ .key key) (body : Music α) :
    (modify control body).keyless = modify control body.keyless := by
  cases control with
  | key key => exact absurd rfl (hkey key)
  | _ => rfl

/-- A condition that every control meets holds throughout a piece. -/
theorem eachControl_of_forall {kind : Control → Prop} (hkind : ∀ control, kind control)
    (piece : Music α) : piece.EachControl kind := by
  induction piece with
  | prim primitive => exact trivial
  | seq left right ihleft ihright => exact ⟨ihleft, ihright⟩
  | par left right ihleft ihright => exact ⟨ihleft, ihright⟩
  | modify control body ih => exact ⟨hkind control, ih⟩
  | stray number => exact trivial

end Music

namespace Context

/-- The context in a key and for a player: all that its notes do not show. -/
def disguised (context : Context) (key : Key) (player : Player) : Context :=
  { context with key, player }

/-- The change to another key and player may be made above or below a control that is neither a key
nor a phrase. A directive that summons a player replaces the player of the disguise as well. -/
theorem exists_under_disguised {kind : PhraseAttribute → Prop} (roster : Option Roster)
    {context : Context} (key : Key) {player : Player} (hagree : context.player.AgreesOn kind player)
    {control : Control} (hkey : ∀ key, control ≠ .key key) :
    ∃ innerPlayer,
      (context.disguised key player).under roster control =
        (·.disguised key innerPlayer) <$> context.under roster control ∧
      ∀ inner, (context.under roster control).result = .ok inner →
        inner.player.AgreesOn kind innerPlayer := by
  cases control with
  | key key => exact absurd rfl (hkey key)
  | tempo ratio =>
    refine ⟨player, ?_, fun inner hinner => ?_⟩
    · exact under_tempo_change (·.disguised key player) context rfl rfl (fun _ _ => rfl) roster
        ratio
    · obtain ⟨_, rfl⟩ := under_eq_ok_iff.mp hinner
      exact hagree
  | custom directive =>
    rw [under, under, directed, directed]
    cases Performance.directedPlayer? directive with
    | none =>
      refine ⟨player, rfl, ?_⟩
      rintro _ ⟨⟩
      exact hagree
    | some name =>
      cases roster with
      | none =>
        refine ⟨player, rfl, ?_⟩
        rintro _ ⟨⟩
        exact hagree
      | some roster =>
        refine ⟨roster.find name, rfl, ?_⟩
        rintro _ ⟨⟩
        exact Player.agreesOn_self kind _
  | stray number =>
    refine ⟨player, rfl, ?_⟩
    rintro _ ⟨⟩
  | transpose _ | instrument _ | phrase _ =>
    refine ⟨player, rfl, ?_⟩
    rintro _ ⟨⟩
    exact hagree

end Context

/-- Without its keys, in another key and for a player that agrees on all attributes of the piece, a
piece has the same outcome and leaves the same log. -/
theorem Music.outcome_keyless {kind : PhraseAttribute → Prop} (roster : Option Roster)
    (context : Context) (key : Key) {player : Player}
    (hagree : context.player.AgreesOn kind player) {piece : Music Payload}
    (hpiece : piece.EachControl (Control.EachAttribute kind)) :
    Echoes id (piece.outcome roster context)
      (piece.keyless.outcome roster (context.disguised key player)) := by
  induction piece generalizing context player with
  | prim primitive =>
    have hscale : (context.disguised key player).lengthScale = context.lengthScale := rfl
    have hnote (length : Ratio) (payload : Payload) :
        Player.playNote (context.disguised key player) length (id payload) =
          id <$> Player.playNote context length (id payload) := (id_map _).symm
    have hleaf := Outcome.ofPrimitive_echoes hscale hnote primitive
    rwa [Outcome.recast_id, Primitive.map_id] at hleaf
  | seq left right ihleft ihright =>
    refine (ihleft context hagree hpiece.1).bind fun l => ?_
    have hlater : (context.disguised key player).advanced l.elapsed =
        (·.disguised key player) <$> context.advanced l.elapsed :=
      Context.advanced_change (·.disguised key player) context rfl (fun _ => rfl) l.elapsed
    refine Echoes.bind_of (.lift hlater) fun later hok => ?_
    have hplayer : later.player = context.player := by
      obtain ⟨_, _, rfl⟩ := Context.advanced_eq_ok_iff.mp hok
      rfl
    rw [← hplayer] at hagree
    refine (ihright later hagree hpiece.2).bind fun r => ?_
    exact .lift (id_map _).symm
  | par left right ihleft ihright =>
    refine (ihleft context hagree hpiece.1).bind fun l => ?_
    refine (ihright context hagree hpiece.2).bind fun r => ?_
    exact .lift (id_map _).symm
  | modify control body ih =>
    by_cases hkey : ∃ own, control = .key own
    · obtain ⟨own, rfl⟩ := hkey
      have hown : (modify (.key own) body).outcome roster context =
          body.outcome roster (context.withKey own) := pure_bind (context.withKey own) _
      rw [hown]
      exact ih (context.withKey own) hagree hpiece.2
    · have hother : ∀ own, control ≠ .key own := not_exists.mp hkey
      rw [keyless_modify hother]
      obtain ⟨attributes, rfl⟩ | hphrase := control.phrase_or_other
      · have hbody := ih context hagree hpiece.2
        have hshape (elapsed : Ratio) (events : List Event) :=
          hagree.applyPhraseAttributes_eq hpiece.1 elapsed events
        rw [← Outcome.recast_id] at hbody ⊢
        refine Outcome.phrase_echoes roster (fun elapsed events => ?_) hbody
        rw [List.map_id, List.map_id_fun, id_map]
        exact hshape elapsed events
      · obtain ⟨innerPlayer, hunder, hinner⟩ :=
          Context.exists_under_disguised roster key hagree hother
        rw [outcome_modify _ _ hphrase, outcome_modify _ _ hphrase, hunder]
        have hechoes :=
          Echoes.map (Context.disguised · key innerPlayer) (context.under roster control)
        exact hechoes.bind_of fun inner hok => ih inner (hinner inner hok) hpiece.2
  | stray number => exact .throw id _

/-- Keys are not heard: a session reports a piece and the piece without its keys alike, in any
key. -/
theorem Session.perform_keyless (session : Session) (context : Context) (key : Key)
    (piece : Music Payload) :
    session.perform (context.withKey key) piece.keyless = session.perform context piece := by
  have hanything (control : Control) : control.EachAttribute fun _ => True := by
    cases control with
    | phrase attributes => exact fun _ _ => trivial
    | _ => exact trivial
  have hechoes := Music.outcome_keyless session.roster context key
    (context.player.agreesOn_self _) (Music.eachControl_of_forall hanything piece)
  simp only [perform, Music.perform_eq_outcome]
  exact hechoes.report_eq session

/-- The fancy player extends the plain one. Where no phrase draws a ramp, it does not matter who
plays: with any roster or none, and whatever directives there are, a session reports the same events
in the same time, or the same fault, and the same log. -/
theorem players_alike_without_ramps (session : Session) (context : Context)
    {piece : Music Payload}
    (hsteady : piece.EachControl (Control.EachAttribute fun attr => ¬ attr.Ramp))
    (player other : Player) :
    session.perform (context.withPlayer player) piece =
      session.perform (context.withPlayer other) piece := by
  have hechoes (first : Player) :
      Echoes id (piece.outcome session.roster (context.withPlayer first))
        (piece.keyless.outcome session.roster (context.disguised context.key other)) :=
    Music.outcome_keyless session.roster (context.withPlayer first) context.key
      (first.agreesOn_steady other) hsteady
  have hplayer := (hechoes player).report_eq session
  have hother := (hechoes other).report_eq session
  simp only [Session.perform, Music.perform_eq_outcome]
  exact hplayer.symm.trans hother

/-- Accents and articulations for the player of the context, for a fancy one and for one that nobody
knows. -/
def Performance.recital : Music Payload :=
  .modify (.phrase [.accent ⟨3, 4⟩])
    (.seq
      (.par (.prim (.note ⟨1, 2⟩ (.loud 48 80)))
        (.modify (.custom "player Fancy")
          (.modify (.phrase [.staccato ⟨1, 2⟩, .accent ⟨1, 2⟩])
            (.prim (.note ⟨1, 2⟩ (.loud 60 80))))))
      (.modify (.custom "player Nobody")
        (.modify (.phrase [.legato ⟨3, 2⟩]) (.prim (.note ⟨1, 4⟩ (.loud 64 100))))))

open Performance in
/-- A fancy soloist plays the recital like a plain player, and the same name is warned of. -/
theorem recital_played_alike :
    recital.EachControl (Control.EachAttribute fun attr => ¬ attr.Ramp) ∧
    (Session.start (some .standard)).perform (Context.standard.withPlayer .standard) recital =
      (Session.start (some .standard)).perform (Context.standard.withPlayer ⟨.fancy, "Solo"⟩)
        recital ∧
    (fun outcome : Outcome => outcome.events.map Event.volume) <$>
      ((Session.start (some .standard)).perform (Context.standard.withPlayer ⟨.fancy, "Solo"⟩)
        recital).result = .ok [30, 60, 75] ∧
    ((Session.start (some .standard)).perform (Context.standard.withPlayer ⟨.fancy, "Solo"⟩)
      recital).session.warned = ["Nobody"] := by
  have hsteady : recital.EachControl (Control.EachAttribute fun attr => ¬ attr.Ramp) := by
    decide
  have halike := players_alike_without_ramps (.start (some .standard)) .standard hsteady .standard
    ⟨.fancy, "Solo"⟩
  refine ⟨hsteady, halike, ?_, ?_⟩
  · rw [Session.perform, Music.perform_eq_outcome]
    decide +kernel
  · rw [Session.perform, Music.perform_eq_outcome]
    decide +kernel

end Polyphony
