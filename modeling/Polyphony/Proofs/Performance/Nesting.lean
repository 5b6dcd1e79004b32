import Polyphony.Proofs.Performance.Stack

/-!
# Nested controls

What controls around controls come to. A stack of controls that derive contexts performs as one
tempo, one transposition and the innermost of each other kind; phrases around phrases are one phrase;
and neighbours of different kinds may change places, but for a phrase and the directive that summons
its player.
-/

namespace Polyphony

/-- A contextual control derives a context from a defined one unless it is a tempo of zero. -/
theorem Context.Defined.admits_iff {context : Context} {control : Control}
    (hcontext : context.Defined) (hcontextual : control.Contextual) :
    context.Admits control ↔ control.Moving := by
  cases control with
  | tempo ratio =>
    constructor
    · rintro ⟨_, _, hnumer⟩
      exact hnumer
    · exact fun hnumer => ⟨hcontext.lengthScale, hcontext.durationScale, hnumer⟩
  | phrase attributes | stray number => exact hcontextual.elim
  | _ => exact Iff.rfl

namespace Music

/-- A piece under a stack of controls, the first of which is the outermost. -/
def wrapped (controls : List Control) (body : Music Payload) : Music Payload :=
  controls.foldr .modify body

end Music

/-- Under a stack of contextual controls, a piece performs as it does in the context below them. -/
theorem Performs.wrapped_iff {roster : Option Roster} {context : Context} {controls : List Control}
    {body : Music Payload} {outcome : Outcome} (hcontext : context.Defined)
    (hcontextual : ∀ control ∈ controls, control.Contextual) :
    Performs roster context (Music.wrapped controls body) outcome ↔
      (∀ control ∈ controls, control.Moving) ∧
        Performs roster (context.derivedThrough roster controls) body outcome := by
  induction controls generalizing context with
  | nil => exact ⟨fun hbody => ⟨List.forall_mem_nil _, hbody⟩, And.right⟩
  | cons control controls ih =>
    obtain ⟨houter, hrest⟩ := List.forall_mem_cons.mp hcontextual
    have hinner := ih (hcontext.derived roster control) hrest
    rw [List.forall_mem_cons, and_assoc]
    exact (modify_iff houter.ne_phrase).trans
      (and_congr (hcontext.admits_iff houter) hinner)

namespace Music

variable {roster : Option Roster} {players : Roster} {body : Music Payload}

/-- Stacks of contextual controls that move on together and derive the same contexts perform
alike. -/
theorem Alike.of_stacks (first second : List Control)
    (hfirst : ∀ control ∈ first, control.Contextual)
    (hsecond : ∀ control ∈ second, control.Contextual)
    (hmoving : (∀ control ∈ first, control.Moving) ↔ ∀ control ∈ second, control.Moving)
    (hderived : ∀ context : Context,
      context.derivedThrough roster first = context.derivedThrough roster second) :
    Alike roster (wrapped first body) (wrapped second body) := by
  refine .of_performs_iff fun context hcontext outcome => ?_
  rw [Performs.wrapped_iff hcontext hfirst, Performs.wrapped_iff hcontext hsecond, hmoving,
    hderived]

/-- A stack of controls performs as what it comes to. -/
theorem wrapped_collapsed_alike {controls : List Control} {tempo? : Option Ratio}
    (hcontextual : ∀ control ∈ controls, control.Contextual)
    (hproduct : Ratio.product? (controls.filterMap Control.ratio?) = .ok tempo?) :
    Alike (some players) (wrapped controls body)
      (wrapped (Control.collapsed tempo? controls) body) :=
  .of_stacks _ _ hcontextual (fun _ => Control.contextual_of_mem_collapsed)
    (Control.forall_moving_collapsed hproduct)
    fun _ => Context.derivedThrough_collapsed players hproduct

/-- A tempo around a tempo is their product. -/
theorem tempo_tempo_alike {r s product : Ratio} (hproduct : r.mul s = .ok product) :
    Alike roster (.modify (.tempo r) (.modify (.tempo s) body))
      (.modify (.tempo product) body) := by
  refine .of_stacks [.tempo r, .tempo s] [.tempo product] ?_ ?_ ?_ fun _ =>
    Context.derived_tempo_tempo hproduct
  · simp [Control.Contextual]
  · simp [Control.Contextual]
  · simp [Control.Moving, Ratio.numer_ne_zero_of_mul hproduct]

/-- A transposition around a transposition is their sum. -/
theorem transpose_transpose_alike (p q : Int) :
    Alike roster (.modify (.transpose p) (.modify (.transpose q) body))
      (.modify (.transpose (p + q)) body) := by
  refine .of_stacks [.transpose p, .transpose q] [.transpose (p + q)] ?_ ?_ ?_ fun _ =>
    Context.derived_transpose_transpose p q
  · simp [Control.Contextual]
  · simp [Control.Contextual]
  · simp [Control.Moving]

/-- Of two nested controls that replace each other the inner one counts. -/
theorem replacing_alike (aspect : Control.Aspect) {outer inner : Control}
    (hreplacing : aspect.Replacing) (houter : outer.aspect? = some aspect)
    (hinner : inner.aspect? = some aspect) :
    Alike (some players) (.modify outer (.modify inner body)) (.modify inner body) := by
  have hstill : aspect ≠ .tempo := by
    rintro rfl
    exact hreplacing
  have hmoving : outer.Moving := by
    refine Control.moving_of_aspect_ne ?_
    rw [houter]
    exact fun htempo => hstill (Option.some.inj htempo)
  have houterContextual := Control.contextual_of_aspect houter
  have hinnerContextual := Control.contextual_of_aspect hinner
  refine .of_stacks [outer, inner] [inner] ?_ ?_ ?_ fun _ =>
    Context.derived_derived_of_replacing players hreplacing houter hinner
  · simp [houterContextual, hinnerContextual]
  · simp [hinnerContextual]
  · simp [hmoving]

/-- A directive that names no player may be left out. -/
theorem custom_none_alike {directive : String}
    (hnone : Performance.directedPlayer? directive = none) :
    Alike roster (.modify (.custom directive) body) body := by
  refine .of_stacks [.custom directive] [] ?_ ?_ ?_ fun _ => Context.derived_custom_none hnone
  · simp [Control.Contextual]
  · exact List.forall_mem_nil _
  · simp [Control.Moving]

/-- Two neighbours that act on different aspects may change places. -/
theorem swap_alike {first second : Control} (hfirst : first.Contextual)
    (hsecond : second.Contextual) (haspects : first.aspect? ≠ second.aspect?) :
    Alike roster (.modify first (.modify second body)) (.modify second (.modify first body)) := by
  refine .of_stacks [first, second] [second, first] ?_ ?_ ?_ fun context => ?_
  · simp [hfirst, hsecond]
  · simp [hfirst, hsecond]
  · simp [and_comm]
  · refine Context.derivedThrough_congr fun aspect => ?_
    rw [Control.ofAspect_pair_comm haspects]

/-- A phrase around a phrase is one phrase with the attributes of both. -/
theorem phrase_phrase_alike (first second : List PhraseAttribute) :
    Alike (some players) (.modify (.phrase first) (.modify (.phrase second) body))
      (.modify (.phrase (first ++ second)) body) := by
  refine .of_performs_iff fun context hcontext outcome => ?_
  simp only [Performs.phrase_iff, Player.applyPhraseAttributes_append, bind_eq_ok_iff]
  constructor
  · rintro ⟨_, shaped, ⟨inner, between, hbody, hsecond, rfl⟩, hfirst, rfl⟩
    exact ⟨inner, shaped, hbody, ⟨between, hsecond, hfirst⟩, rfl⟩
  · rintro ⟨inner, shaped, hbody, ⟨between, hsecond, hfirst⟩, rfl⟩
    exact ⟨_, shaped, ⟨inner, between, hbody, hsecond, rfl⟩, hfirst, rfl⟩

/-- A phrase without attributes may be left out. -/
theorem phrase_nil_alike : Alike (some players) (.modify (.phrase []) body) body := by
  refine .of_performs_iff fun context hcontext outcome => ?_
  simp only [Performs.phrase_iff, Player.applyPhraseAttributes, pure_eq_ok_iff]
  constructor
  · rintro ⟨inner, _, hbody, rfl, rfl⟩
    exact hbody
  · exact fun hbody => ⟨outcome, outcome.events, hbody, rfl, rfl⟩

/-- A phrase and a control that summons no player may change places: both orders shape the events of
the same performance by the same player. -/
theorem phrase_swap_alike {control : Control} (attributes : List PhraseAttribute)
    (hphrase : ∀ attributes, control ≠ .phrase attributes)
    (hplayer : control.aspect? ≠ some .player) :
    Alike (some players) (.modify (.phrase attributes) (.modify control body))
      (.modify control (.modify (.phrase attributes) body)) := by
  refine .of_performs_iff fun context hcontext outcome => ?_
  have hsame : (context.derived (some players) control).player = context.player :=
    Context.agrees_derived_of_ne hplayer
  simp only [Performs.phrase_iff, Performs.modify_iff hphrase, hsame]
  constructor
  · rintro ⟨inner, shaped, ⟨hadmits, hbody⟩, hshaped, rfl⟩
    exact ⟨hadmits, inner, shaped, hbody, hshaped, rfl⟩
  · rintro ⟨hadmits, inner, shaped, hbody, hshaped, rfl⟩
    exact ⟨inner, shaped, ⟨hadmits, hbody⟩, hshaped, rfl⟩

end Music

/-- The algebra of nested controls, for players from a roster. Tempos multiply, transpositions add up,
and of two channels, two keys or two directives that summon players the inner one counts. Phrases join
their attributes, phrases without attributes and directives that summon nobody may be left out, and
neighbours of different kinds may change places, a phrase with any but a summons. So a stack of
controls without phrases performs as one tempo, one transposition and the innermost of each other
kind. -/
theorem perform_nested_controls (players : Roster) (body : Music Payload) :
    (∀ r s : Ratio,
      (∀ product, r.mul s = .ok product →
        Music.Alike (some players) (.modify (.tempo r) (.modify (.tempo s) body))
          (.modify (.tempo product) body)) ∧
      ((Control.tempo r).Checked → (Control.tempo s).Checked →
        ∃ product, r.mul s = .ok product ∧ (Control.tempo product).Checked)) ∧
    (∀ p q : Int,
      Music.Alike (some players) (.modify (.transpose p) (.modify (.transpose q) body))
        (.modify (.transpose (p + q)) body)) ∧
    (∀ outer inner : Channel,
      Music.Alike (some players) (.modify (.instrument outer) (.modify (.instrument inner) body))
        (.modify (.instrument inner) body)) ∧
    (∀ outer inner : Key,
      Music.Alike (some players) (.modify (.key outer) (.modify (.key inner) body))
        (.modify (.key inner) body)) ∧
    (∀ outer inner : String, Performance.directedPlayer? outer ≠ none →
      Performance.directedPlayer? inner ≠ none →
        Music.Alike (some players) (.modify (.custom outer) (.modify (.custom inner) body))
          (.modify (.custom inner) body)) ∧
    (∀ first second : List PhraseAttribute,
      Music.Alike (some players) (.modify (.phrase first) (.modify (.phrase second) body))
        (.modify (.phrase (first ++ second)) body)) ∧
    Music.Alike (some players) (.modify (.phrase []) body) body ∧
    (∀ directive : String, Performance.directedPlayer? directive = none →
      Music.Alike (some players) (.modify (.custom directive) body) body) ∧
    (∀ first second : Control, first.Contextual → second.Contextual →
      first.aspect? ≠ second.aspect? →
        Music.Alike (some players) (.modify first (.modify second body))
          (.modify second (.modify first body))) ∧
    (∀ (attributes : List PhraseAttribute) (control : Control), control.Contextual →
      control.aspect? ≠ some .player →
        Music.Alike (some players) (.modify (.phrase attributes) (.modify control body))
          (.modify control (.modify (.phrase attributes) body))) ∧
    ∀ controls : List Control, (∀ control ∈ controls, control.Contextual) →
      (∀ tempo?, Ratio.product? (controls.filterMap Control.ratio?) = .ok tempo? →
        Music.Alike (some players) (Music.wrapped controls body)
          (Music.wrapped (Control.collapsed tempo? controls) body)) ∧
      ((∀ control ∈ controls, control.Checked) →
        ∃ tempo?, Ratio.product? (controls.filterMap Control.ratio?) = .ok tempo? ∧
          ∀ ratio ∈ tempo?, (Control.tempo ratio).Checked) := by
  have haspect (directive : String) (hsome : Performance.directedPlayer? directive ≠ none) :
      (Control.custom directive).aspect? = some .player := by
    obtain ⟨name, hname⟩ := Option.ne_none_iff_exists'.mp hsome
    simp only [Control.aspect?, hname, Option.map_some]
  refine ⟨?_, Music.transpose_transpose_alike, ?_, ?_, ?_, Music.phrase_phrase_alike,
    Music.phrase_nil_alike, ?_, ?_, ?_, ?_⟩
  · exact fun r s => ⟨fun product hproduct => Music.tempo_tempo_alike hproduct, Control.Checked.mul⟩
  · exact fun outer inner => Music.replacing_alike .channel trivial rfl rfl
  · exact fun outer inner => Music.replacing_alike .key trivial rfl rfl
  · intro outer inner houter hinner
    exact Music.replacing_alike .player trivial (haspect outer houter) (haspect inner hinner)
  · exact fun directive hnone => Music.custom_none_alike hnone
  · exact fun first second hfirst hsecond haspects => Music.swap_alike hfirst hsecond haspects
  · intro attributes control hcontextual hplayer
    exact Music.phrase_swap_alike attributes hcontextual.ne_phrase hplayer
  · exact fun controls hcontextual =>
      ⟨fun tempo? hproduct => Music.wrapped_collapsed_alike hcontextual hproduct,
        Control.exists_product_checked⟩

/-- A stack in which tempos cancel out, a directive names nobody and a channel is set twice. -/
def Performance.layers : List Control :=
  [.tempo ⟨3, 2⟩, .instrument ⟨.last 15⟩, .transpose 5, .custom "slower", .tempo ⟨4, 6⟩,
    .custom "player Fancy", .instrument .first, .transpose (-3)]

open Performance in
/-- The specimen under the stack performs as under what the stack comes to. -/
theorem specimen_under_layers :
    ((∀ control ∈ layers, control.Contextual ∧ control.Checked) ∧
      Ratio.product? (layers.filterMap Control.ratio?) = .ok (some .one)) ∧
    Music.Alike (some .standard) (Music.wrapped layers specimen)
      (Music.wrapped [.tempo .one, .transpose 2, .instrument .first, .custom "player Fancy"]
        specimen) := by
  have hcontextual : ∀ control ∈ layers, control.Contextual := by
    simp [layers, Control.Contextual]
  have hchecked : ∀ control ∈ layers, control.Checked := by decide +kernel
  have hproduct : Ratio.product? (layers.filterMap Control.ratio?) = .ok (some .one) := by
    decide +kernel
  have hcollapsed : Control.collapsed (some .one) layers =
      [.tempo .one, .transpose 2, .instrument .first, .custom "player Fancy"] := by
    decide +kernel
  obtain ⟨_, _, _, _, _, _, _, _, _, _, hstacks⟩ := perform_nested_controls .standard specimen
  have halike := (hstacks layers hcontextual).1 _ hproduct
  rw [hcollapsed] at halike
  exact ⟨⟨fun control hmem => ⟨hcontextual control hmem, hchecked control hmem⟩, hproduct⟩, halike⟩

end Polyphony
