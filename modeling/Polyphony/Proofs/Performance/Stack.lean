import Polyphony.Proofs.Music.Aspect
import Polyphony.Proofs.Performance.Alike

/-!
# Stacks of controls

The context under a stack of controls, and why controls of different aspects do not get into each
other's way: each aspect of that context depends on the controls of the aspect alone. So the order
of controls matters within an aspect only, and what a stack does is what it does to each aspect.
-/

namespace Polyphony

attribute [ext] Context

namespace Context

variable {roster : Option Roster} {context other : Context} {aspect : Control.Aspect}
  {control : Control} {controls : List Control}

/-- The context below a stack of controls, the first of which is the outermost. -/
def derivedThrough (roster : Option Roster) (context : Context) (controls : List Control) :
    Context :=
  controls.foldl (derived roster) context

/-- Two contexts are the same in one aspect. -/
def Agrees (context other : Context) : Control.Aspect → Prop
  | .tempo => context.lengthScale = other.lengthScale ∧ context.durationScale = other.durationScale
  | .pitch => context.pitch = other.pitch
  | .channel => context.channel = other.channel
  | .key => context.key = other.key
  | .player => context.player = other.player

theorem Agrees.refl (context : Context) (aspect : Control.Aspect) :
    context.Agrees context aspect := by
  cases aspect with
  | tempo => exact ⟨rfl, rfl⟩
  | pitch | channel | key | player => rfl

/-- A directive that names no player keeps the context. -/
theorem derived_custom_none {directive : String}
    (hnone : Performance.directedPlayer? directive = none) :
    context.derived roster (.custom directive) = context := by
  simp only [derived, summoned, hnone, withPlayer]

/-- A control keeps the aspects that it does not act on. -/
theorem agrees_derived_of_ne (haspect : control.aspect? ≠ some aspect) :
    (context.derived roster control).Agrees context aspect := by
  cases control with
  | custom directive =>
    cases hname : Performance.directedPlayer? directive with
    | none =>
      rw [derived_custom_none hname]
      exact .refl context aspect
    | some name =>
      cases aspect with
      | player => exact absurd (by rw [Control.aspect?, hname]; rfl) haspect
      | tempo => exact ⟨rfl, rfl⟩
      | pitch | channel | key => rfl
  | phrase attributes | stray number => exact .refl context aspect
  | _ =>
    cases aspect <;> first | exact absurd rfl haspect | exact ⟨rfl, rfl⟩ | rfl

/-- What a control makes of one aspect depends on that aspect only. -/
theorem Agrees.derived (hagrees : context.Agrees other aspect) (roster : Option Roster)
    (control : Control) :
    (context.derived roster control).Agrees (other.derived roster control) aspect := by
  cases control with
  | tempo ratio =>
    cases aspect with
    | tempo => exact ⟨by simp only [Context.derived, hagrees.1],
        by simp only [Context.derived, hagrees.2]⟩
    | _ => exact hagrees
  | transpose steps =>
    cases aspect with
    | pitch => exact congrArg (· + steps) hagrees
    | _ => exact hagrees
  | instrument channel =>
    cases aspect with
    | channel => rfl
    | _ => exact hagrees
  | key key =>
    cases aspect with
    | key => rfl
    | _ => exact hagrees
  | custom directive =>
    cases aspect with
    | player =>
      have hplayer : context.player = other.player := hagrees
      simp only [Agrees, Context.derived, withPlayer, summoned, hplayer]
    | _ => exact hagrees
  | phrase attributes | stray number => exact hagrees

theorem Agrees.trans {third : Context} (hfirst : context.Agrees other aspect)
    (hsecond : other.Agrees third aspect) : context.Agrees third aspect := by
  cases aspect with
  | tempo => exact ⟨hfirst.1.trans hsecond.1, hfirst.2.trans hsecond.2⟩
  | pitch | channel | key | player => exact Eq.trans hfirst hsecond

theorem Agrees.symm (hagrees : context.Agrees other aspect) : other.Agrees context aspect := by
  cases aspect with
  | tempo => exact ⟨hagrees.1.symm, hagrees.2.symm⟩
  | pitch | channel | key | player => exact Eq.symm hagrees

/-- What a stack makes of one aspect is what its controls of that aspect make of it. -/
theorem Agrees.derivedThrough (hagrees : context.Agrees other aspect) (roster : Option Roster)
    (controls : List Control) :
    (context.derivedThrough roster controls).Agrees
      (other.derivedThrough roster (Control.ofAspect aspect controls)) aspect := by
  induction controls generalizing context other with
  | nil => exact hagrees
  | cons control controls ih =>
    by_cases haspect : control.aspect? = some aspect
    · rw [Control.ofAspect, List.filter_cons_of_pos (by simpa using haspect)]
      exact ih (hagrees.derived roster control)
    · rw [Control.ofAspect, List.filter_cons_of_neg (by simpa using haspect)]
      exact ih ((agrees_derived_of_ne haspect).trans hagrees)

@[simp] theorem derivedThrough_time :
    (context.derivedThrough roster controls).time = context.time := by
  induction controls generalizing context with
  | nil => rfl
  | cons control controls ih => exact ih.trans (derived_time ..)

@[simp] theorem derivedThrough_volume :
    (context.derivedThrough roster controls).volume = context.volume := by
  induction controls generalizing context with
  | nil => rfl
  | cons control controls ih => exact ih.trans (derived_volume ..)

/-- Contexts of one time and one volume that are the same in every aspect are the same. -/
theorem eq_of_agrees (htime : context.time = other.time) (hvolume : context.volume = other.volume)
    (hagrees : ∀ aspect, context.Agrees other aspect) : context = other := by
  apply Context.ext
  case time => exact htime
  case volume => exact hvolume
  case lengthScale => exact (hagrees .tempo).1
  case durationScale => exact (hagrees .tempo).2
  case pitch => exact hagrees .pitch
  case channel => exact hagrees .channel
  case key => exact hagrees .key
  case player => exact hagrees .player

/-- Two stacks derive one context when they do so with their controls of each aspect. -/
theorem derivedThrough_congr {first second : List Control}
    (haspects : ∀ aspect, context.derivedThrough roster (Control.ofAspect aspect first) =
      context.derivedThrough roster (Control.ofAspect aspect second)) :
    context.derivedThrough roster first = context.derivedThrough roster second := by
  refine eq_of_agrees ?_ ?_ fun aspect => ?_
  · rw [derivedThrough_time, derivedThrough_time]
  · rw [derivedThrough_volume, derivedThrough_volume]
  · have hfirst := (Agrees.refl context aspect).derivedThrough roster first
    have hsecond := (Agrees.refl context aspect).derivedThrough roster second
    rw [haspects aspect] at hfirst
    exact hfirst.trans hsecond.symm

/-- Tempos multiply. -/
theorem derived_tempo_tempo {r s product : Ratio} (hproduct : r.mul s = .ok product) :
    (context.derived roster (.tempo r)).derived roster (.tempo s) =
      context.derived roster (.tempo product) := by
  obtain ⟨_, _, rfl⟩ := Ratio.mul_eq_ok_iff.mp hproduct
  simp only [derived, Ratio.value_ofValue, div_div]

/-- Transpositions add up. -/
theorem derived_transpose_transpose (p q : Int) :
    (context.derived roster (.transpose p)).derived roster (.transpose q) =
      context.derived roster (.transpose (p + q)) := by
  simp only [derived, transposed, add_assoc]

/-- With a roster, a replacing control leaves nothing of what stood there. -/
theorem agrees_derived_of_replacing (players : Roster) (hreplacing : aspect.Replacing)
    (haspect : control.aspect? = some aspect) :
    (context.derived (some players) control).Agrees (other.derived (some players) control)
      aspect := by
  cases control with
  | instrument channel | key key =>
    obtain rfl := Option.some.inj haspect
    rfl
  | custom directive =>
    obtain ⟨name, hname, rfl⟩ := Option.map_eq_some_iff.mp haspect
    simp only [Agrees, derived, withPlayer, summoned, hname]
  | tempo ratio | transpose steps =>
    obtain rfl := Option.some.inj haspect
    exact hreplacing.elim
  | phrase attributes | stray number => cases haspect

/-- Of two controls that replace each other the inner one counts. -/
theorem derived_derived_of_replacing {outer inner : Control} (players : Roster)
    (hreplacing : aspect.Replacing) (houter : outer.aspect? = some aspect)
    (hinner : inner.aspect? = some aspect) :
    (context.derived (some players) outer).derived (some players) inner =
      context.derived (some players) inner := by
  refine eq_of_agrees (by simp) (by simp) fun other => ?_
  by_cases hother : other = aspect
  · subst hother
    exact agrees_derived_of_replacing players hreplacing hinner
  · have hkeeps : outer.aspect? ≠ some other := by
      rw [houter]
      exact fun hsame => hother (Option.some.inj hsame).symm
    exact (agrees_derived_of_ne hkeeps).derived (some players) inner

/-- Of a stack of controls that replace each other the innermost one counts. -/
theorem derivedThrough_getLast (players : Roster) (hreplacing : aspect.Replacing)
    (haspect : ∀ control ∈ controls, control.aspect? = some aspect) :
    context.derivedThrough (some players) controls =
      context.derivedThrough (some players) controls.getLast?.toList := by
  induction controls generalizing context with
  | nil => rfl
  | cons outer controls ih =>
    obtain ⟨houter, hrest⟩ := List.forall_mem_cons.mp haspect
    cases controls with
    | nil => rfl
    | cons inner controls =>
      have hinner := hrest inner List.mem_cons_self
      calc context.derivedThrough (some players) (outer :: inner :: controls)
          = ((context.derived (some players) outer).derived (some players) inner).derivedThrough
              (some players) controls := rfl
        _ = context.derivedThrough (some players) (inner :: controls) := by
          rw [derived_derived_of_replacing players hreplacing houter hinner]
          rfl
        _ = context.derivedThrough (some players) (outer :: inner :: controls).getLast?.toList := by
          rw [ih hrest, List.getLast?_cons_cons]

/-- A stack of tempos derives the context of their product. -/
theorem derivedThrough_tempo {ratios : List Ratio} {tempo? : Option Ratio}
    (hproduct : Ratio.product? ratios = .ok tempo?) :
    context.derivedThrough roster (ratios.map .tempo) =
      context.derivedThrough roster (tempo?.toList.map .tempo) := by
  obtain ⟨rfl, rfl⟩ | ⟨first, rest, product, rfl, rfl, hfold⟩ := Ratio.product?_cases hproduct
  · rfl
  · clear hproduct
    induction rest generalizing first with
    | nil =>
      obtain rfl := pure_eq_ok_iff.mp hfold
      rfl
    | cons second rest ih =>
      obtain ⟨both, hboth, hrest⟩ := bind_eq_ok_iff.mp hfold
      rw [← ih both hrest]
      change ((context.derived roster (.tempo first)).derived roster
        (.tempo second)).derivedThrough roster (rest.map .tempo) = _
      rw [derived_tempo_tempo hboth]
      rfl

/-- A stack of transpositions derives the context of their sum. -/
theorem derivedThrough_transpose :
    context.derivedThrough roster (Control.ofAspect .pitch controls) =
      context.derived roster (.transpose (controls.map Control.shift).sum) := by
  induction controls generalizing context with
  | nil => simp [Control.ofAspect, derivedThrough, derived, transposed]
  | cons control controls ih =>
    rw [List.map_cons, List.sum_cons]
    by_cases haspect : control.aspect? = some .pitch
    · rw [Control.ofAspect, List.filter_cons_of_pos (by simpa using haspect)]
      obtain ⟨steps, rfl⟩ := Control.exists_transpose_of_aspect haspect
      exact ih.trans (derived_transpose_transpose ..)
    · rw [Control.ofAspect, List.filter_cons_of_neg (by simpa using haspect),
        Control.shift_of_aspect_ne haspect, zero_add]
      exact ih

/-- A stack of controls derives the same context as what it comes to. -/
theorem derivedThrough_collapsed (players : Roster) {tempo? : Option Ratio}
    (hproduct : Ratio.product? (controls.filterMap Control.ratio?) = .ok tempo?) :
    context.derivedThrough (some players) controls =
      context.derivedThrough (some players) (Control.collapsed tempo? controls) := by
  refine derivedThrough_congr fun aspect => ?_
  rw [Control.ofAspect_collapsed]
  cases aspect with
  | tempo =>
    rw [Control.ofAspect_tempo]
    exact derivedThrough_tempo hproduct
  | pitch => exact derivedThrough_transpose
  | channel | key | player =>
    exact derivedThrough_getLast players (by trivial) fun _ => Control.aspect_of_mem_ofAspect

end Context

end Polyphony
