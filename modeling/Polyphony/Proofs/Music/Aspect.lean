import Polyphony.Performance.Directive
import Polyphony.Proofs.Music.Control

/-!
# Aspects of controls

Most controls act on one aspect of the context and on nothing else. A stack of controls comes to one
control for each aspect that it has controls of: tempos multiply, transpositions add up, and of the
controls that set something the innermost counts.
-/

namespace Polyphony

namespace Ratio

/-- The product of ratios from the first to the last, if there are any. -/
def product? : List Ratio → Except Fault (Option Ratio)
  | [] => .ok none
  | first :: rest => do return some (← rest.foldlM mul first)

/-- A product is that of no ratios or one started from the first ratio. -/
theorem product?_cases {ratios : List Ratio} {tempo? : Option Ratio}
    (hproduct : product? ratios = .ok tempo?) :
    (ratios = [] ∧ tempo? = none) ∨ ∃ first rest product, ratios = first :: rest ∧
      tempo? = some product ∧ rest.foldlM mul first = .ok product := by
  cases ratios with
  | nil => exact .inl ⟨rfl, (Except.ok.inj hproduct).symm⟩
  | cons first rest =>
    obtain ⟨product, hfold, hsome⟩ := bind_eq_ok_iff.mp hproduct
    exact .inr ⟨first, rest, product, rfl, (pure_eq_ok_iff.mp hsome).symm, hfold⟩

/-- The product of two ratios has a zero above the line only when one of them does. -/
theorem numer_ne_zero_of_mul {r s product : Ratio} (hproduct : r.mul s = .ok product) :
    product.numer ≠ 0 ↔ r.numer ≠ 0 ∧ s.numer ≠ 0 := by
  obtain ⟨hr, hs, rfl⟩ := mul_eq_ok_iff.mp hproduct
  rw [ne_eq, (ofValue_defined _).numer_eq_zero_iff, value_ofValue, mul_eq_zero, not_or,
    ne_eq, hr.numer_eq_zero_iff, ne_eq, hs.numer_eq_zero_iff]

end Ratio

namespace Control

/-- What a control may act on. -/
inductive Aspect where
  /-- The scales of lengths and durations. -/
  | tempo
  /-- The transposition. -/
  | pitch
  /-- The channel. -/
  | channel
  /-- The key. -/
  | key
  /-- The player. -/
  | player
deriving DecidableEq

/-- The controls of the aspect replace what others before them set. -/
def Aspect.Replacing : Aspect → Prop
  | tempo | pitch => False
  | channel | key | player => True

/-- The aspect of the context that a control acts on. Directives that name no player act on none, and
neither do phrases. -/
def aspect? : Control → Option Aspect
  | tempo _ => some .tempo
  | transpose _ => some .pitch
  | instrument _ => some .channel
  | key _ => some .key
  | custom directive => (Performance.directedPlayer? directive).map fun _ => .player
  | phrase _ | stray _ => none

/-- The control does nothing but derive a context. -/
def Contextual : Control → Prop
  | phrase _ | stray _ => False
  | _ => True

/-- The control is not a tempo of zero. -/
def Moving : Control → Prop
  | tempo ratio => ratio.numer ≠ 0
  | _ => True

/-- The ratio of a tempo. -/
def ratio? : Control → Option Ratio
  | tempo ratio => some ratio
  | _ => none

theorem eq_tempo_of_ratio? {control : Control} {ratio : Ratio}
    (hratio : control.ratio? = some ratio) : control = tempo ratio := by
  cases control with
  | tempo _ => exact congrArg tempo (Option.some.inj hratio)
  | _ => cases hratio

theorem contextual_of_aspect {control : Control} {aspect : Aspect}
    (haspect : control.aspect? = some aspect) : control.Contextual := by
  cases control with
  | phrase attributes | stray number => cases haspect
  | _ => trivial

theorem Contextual.ne_phrase {control : Control} (hcontextual : control.Contextual)
    (attributes : List PhraseAttribute) : control ≠ .phrase attributes := by
  rintro rfl
  exact hcontextual

theorem exists_transpose_of_aspect {control : Control} (haspect : control.aspect? = some .pitch) :
    ∃ steps, control = transpose steps := by
  cases control with
  | transpose steps => exact ⟨steps, rfl⟩
  | custom directive => simp [aspect?] at haspect
  | _ => cases haspect

theorem shift_of_aspect_ne {control : Control} (haspect : control.aspect? ≠ some .pitch) :
    control.shift = 0 := by
  cases control with
  | transpose steps => exact absurd rfl haspect
  | _ => rfl

theorem moving_of_aspect_ne {control : Control} (haspect : control.aspect? ≠ some .tempo) :
    control.Moving := by
  cases control with
  | tempo ratio => exact absurd rfl haspect
  | _ => trivial

section Stack

variable {aspect : Aspect} {controls : List Control}

/-- The controls of one aspect in a stack. -/
def ofAspect (aspect : Aspect) (controls : List Control) : List Control :=
  controls.filter fun control => control.aspect? = some aspect

/-- The innermost control of one aspect in a stack that begins with the outermost. -/
def innermost? (aspect : Aspect) (controls : List Control) : Option Control :=
  (ofAspect aspect controls).getLast?

/-- What the controls of one aspect in a stack come to, given the product of the tempos. -/
def joint (tempo? : Option Ratio) (controls : List Control) : Aspect → List Control
  | .tempo => tempo?.toList.map tempo
  | .pitch => [transpose (controls.map shift).sum]
  | aspect => (innermost? aspect controls).toList

/-- What a stack of controls comes to, given the product of its tempos. -/
def collapsed (tempo? : Option Ratio) (controls : List Control) : List Control :=
  [Aspect.tempo, .pitch, .channel, .key, .player].flatMap (joint tempo? controls)

theorem aspect_of_mem_ofAspect {control : Control} (hmem : control ∈ ofAspect aspect controls) :
    control.aspect? = some aspect := by
  simpa using (List.mem_filter.mp hmem).2

theorem aspect_of_mem_joint {tempo? : Option Ratio} {control : Control}
    (hmem : control ∈ joint tempo? controls aspect) : control.aspect? = some aspect := by
  have hinnermost : ∀ aspect, control ∈ (innermost? aspect controls).toList →
      control.aspect? = some aspect := fun aspect hmem =>
    aspect_of_mem_ofAspect (List.mem_of_getLast? (Option.mem_toList.mp hmem))
  cases aspect with
  | tempo =>
    obtain ⟨ratio, _, rfl⟩ := List.mem_map.mp hmem
    rfl
  | pitch =>
    obtain rfl := List.mem_singleton.mp hmem
    rfl
  | channel | key | player => exact hinnermost _ hmem

theorem ofAspect_joint_self {tempo? : Option Ratio} :
    ofAspect aspect (joint tempo? controls aspect) = joint tempo? controls aspect :=
  List.filter_eq_self.mpr fun _ hmem => by simpa using aspect_of_mem_joint hmem

theorem ofAspect_joint_ne {tempo? : Option Ratio} {other : Aspect} (hother : other ≠ aspect) :
    ofAspect aspect (joint tempo? controls other) = [] := by
  refine List.filter_eq_nil_iff.mpr fun control hmem => ?_
  rw [aspect_of_mem_joint hmem]
  simpa using hother

/-- A collapsed stack has of each aspect what the controls of it come to. -/
theorem ofAspect_collapsed {tempo? : Option Ratio} :
    ofAspect aspect (collapsed tempo? controls) = joint tempo? controls aspect := by
  have happend (first second : List Control) : ofAspect aspect (first ++ second) =
      ofAspect aspect first ++ ofAspect aspect second := List.filter_append ..
  simp only [collapsed, List.flatMap_cons, List.flatMap_nil, List.append_nil, happend]
  cases aspect <;> simp [ofAspect_joint_self, ofAspect_joint_ne]

theorem contextual_of_mem_collapsed {tempo? : Option Ratio} {control : Control}
    (hmem : control ∈ collapsed tempo? controls) : control.Contextual := by
  obtain ⟨aspect, _, hjoint⟩ := List.mem_flatMap.mp hmem
  exact contextual_of_aspect (aspect_of_mem_joint hjoint)

/-- A stack moves on when its tempos do. -/
theorem forall_moving_iff (controls : List Control) :
    (∀ control ∈ controls, control.Moving) ↔
      ∀ control ∈ ofAspect .tempo controls, control.Moving := by
  constructor
  · exact fun hmoving control hmem => hmoving control (List.mem_of_mem_filter hmem)
  · intro hmoving control hmem
    by_cases haspect : control.aspect? = some .tempo
    · exact hmoving control (List.mem_filter.mpr ⟨hmem, by simpa using haspect⟩)
    · exact moving_of_aspect_ne haspect

/-- Two controls of different aspects are not both of one aspect, so their order is lost. -/
theorem ofAspect_pair_comm {first second : Control} (haspects : first.aspect? ≠ second.aspect?) :
    ofAspect aspect [first, second] = ofAspect aspect [second, first] := by
  by_cases hfirst : first.aspect? = some aspect
  · have hsecond : second.aspect? ≠ some aspect := fun hsecond =>
      haspects (hfirst.trans hsecond.symm)
    simp [ofAspect, hfirst, hsecond]
  · simp [ofAspect, List.filter_cons, hfirst]

/-- The controls of the tempo are those that have a ratio. -/
theorem ofAspect_tempo : ofAspect .tempo controls = (controls.filterMap ratio?).map tempo := by
  induction controls with
  | nil => rfl
  | cons control controls ih =>
    cases control with
    | tempo ratio => exact congrArg (tempo ratio :: ·) ih
    | custom directive =>
      have hother : (custom directive).aspect? ≠ some .tempo := by simp [aspect?]
      rw [ofAspect, List.filter_cons_of_neg (by simpa using hother)]
      exact ih
    | _ => exact ih

end Stack

/-- Tempos move on when their product from the first one on does. -/
theorem forall_moving_foldl {first product : Ratio} {rest : List Ratio}
    (hfold : rest.foldlM Ratio.mul first = .ok product) :
    (∀ control ∈ (first :: rest).map tempo, control.Moving) ↔ (tempo product).Moving := by
  induction rest generalizing first with
  | nil =>
    obtain rfl := pure_eq_ok_iff.mp hfold
    exact List.forall_mem_singleton
  | cons second rest ih =>
    obtain ⟨both, hboth, hrest⟩ := bind_eq_ok_iff.mp hfold
    rw [← ih hrest]
    simp only [List.map_cons, List.forall_mem_cons, Moving, Ratio.numer_ne_zero_of_mul hboth,
      and_assoc]

/-- A stack moves on when what it comes to does. -/
theorem forall_moving_collapsed {controls : List Control} {tempo? : Option Ratio}
    (hproduct : Ratio.product? (controls.filterMap ratio?) = .ok tempo?) :
    (∀ control ∈ controls, control.Moving) ↔
      ∀ control ∈ collapsed tempo? controls, control.Moving := by
  rw [forall_moving_iff controls, ofAspect_tempo, forall_moving_iff (collapsed tempo? controls),
    ofAspect_collapsed]
  obtain ⟨hnil, rfl⟩ | ⟨first, rest, product, hcons, rfl, hfold⟩ := Ratio.product?_cases hproduct
  · rw [hnil]
    rfl
  · rw [hcons, forall_moving_foldl hfold]
    exact List.forall_mem_singleton.symm

/-- Checked tempos have a product, which is a checked tempo again. -/
theorem Checked.mul {r s : Ratio} (hr : (tempo r).Checked) (hs : (tempo s).Checked) :
    ∃ product, r.mul s = .ok product ∧ (tempo product).Checked := by
  obtain ⟨hrDefined, hrPos, _⟩ := checkedTempo_eq_ok_iff.mp hr
  obtain ⟨hsDefined, hsPos, _⟩ := checkedTempo_eq_ok_iff.mp hs
  refine ⟨_, Ratio.mul_eq_ok_iff.mpr ⟨hrDefined, hsDefined, rfl⟩, ?_⟩
  refine checkedTempo_eq_ok_iff.mpr ⟨Ratio.ofValue_defined _, ?_, rfl⟩
  rw [Ratio.value_ofValue]
  exact Rat.mul_pos hrPos hsPos

/-- A checked tempo times checked tempos is a checked tempo. -/
theorem exists_foldl_checked {first : Ratio} {rest : List Ratio} (hfirst : (tempo first).Checked)
    (hrest : ∀ ratio ∈ rest, (tempo ratio).Checked) :
    ∃ product, rest.foldlM Ratio.mul first = .ok product ∧ (tempo product).Checked := by
  induction rest generalizing first with
  | nil => exact ⟨first, rfl, hfirst⟩
  | cons second rest ih =>
    obtain ⟨hsecond, hlast⟩ := List.forall_mem_cons.mp hrest
    obtain ⟨both, hboth, hchecked⟩ := hfirst.mul hsecond
    obtain ⟨product, hfold, hproduct⟩ := ih hchecked hlast
    exact ⟨product, bind_eq_ok_iff.mpr ⟨both, hboth, hfold⟩, hproduct⟩

/-- The tempos of a stack of checked controls have a product, which is a checked tempo again. -/
theorem exists_product_checked {controls : List Control}
    (hchecked : ∀ control ∈ controls, control.Checked) :
    ∃ tempo?, Ratio.product? (controls.filterMap ratio?) = .ok tempo? ∧
      ∀ ratio ∈ tempo?, (tempo ratio).Checked := by
  have hratios : ∀ ratio ∈ controls.filterMap ratio?, (tempo ratio).Checked := by
    intro ratio hmem
    obtain ⟨control, hcontrol, hratio⟩ := List.mem_filterMap.mp hmem
    obtain rfl := eq_tempo_of_ratio? hratio
    exact hchecked _ hcontrol
  cases hlist : controls.filterMap ratio? with
  | nil => exact ⟨none, rfl, by simp⟩
  | cons first rest =>
    rw [hlist] at hratios
    obtain ⟨hfirst, hrest⟩ := List.forall_mem_cons.mp hratios
    obtain ⟨product, hfold, hproduct⟩ := exists_foldl_checked hfirst hrest
    refine ⟨some product, bind_eq_ok_iff.mpr ⟨product, hfold, rfl⟩, ?_⟩
    rintro _ ⟨⟩
    exact hproduct

end Control

end Polyphony
