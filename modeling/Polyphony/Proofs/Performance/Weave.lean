import Polyphony.Proofs.Performance.Interleave

/-!
# Weaves

How two lists go into one: a weave takes, item by item, the next item of one side or of the other.
Interleaving performances weaves them by comparing times, so two pairs of performances whose times
compare alike are woven alike. Of three performances it does not matter which two are interleaved
first, whether or not they are in the order of time.
-/

namespace Polyphony.Performance

/-- One of two performances that go on together. -/
inductive Side where
  /-- The left one. -/
  | left
  /-- The right one. -/
  | right
deriving DecidableEq

/-- A list is woven from two others by taking, item by item, the next one of the given side, until
nothing is left on either. -/
inductive Woven {α : Type} : List Side → List α → List α → List α → Prop where
  /-- Nothing is woven from nothing. -/
  | nil : Woven [] [] [] []
  /-- The next item is that of the left side. -/
  | left {sides : List Side} {item : α} {left right woven : List α}
      (hrest : Woven sides left right woven) :
      Woven (.left :: sides) (item :: left) right (item :: woven)
  /-- The next item is that of the right side. -/
  | right {sides : List Side} {item : α} {left right woven : List α}
      (hrest : Woven sides left right woven) :
      Woven (.right :: sides) left (item :: right) (item :: woven)

namespace Woven

variable {α : Type}

theorem leftOnly (left : List α) : Woven (.replicate left.length .left) left [] left := by
  induction left with
  | nil => exact .nil
  | cons item left ih => exact .left ih

theorem rightOnly (right : List α) : Woven (.replicate right.length .right) [] right right := by
  induction right with
  | nil => exact .nil
  | cons item right ih => exact .right ih

/-- Lists woven alike from related ones are related. -/
theorem forall₂ {R : α → α → Prop} {sides : List Side} {left right woven left' right' woven' : List α}
    (hwoven : Woven sides left right woven) (hwoven' : Woven sides left' right' woven')
    (hleft : List.Forall₂ R left left') (hright : List.Forall₂ R right right') :
    List.Forall₂ R woven woven' := by
  induction hwoven generalizing left' right' woven' with
  | nil =>
    cases hwoven'
    exact .nil
  | left hrest ih =>
    cases hwoven' with
    | left hrest' =>
      obtain ⟨hitem, hleft⟩ := List.forall₂_cons.mp hleft
      exact .cons hitem (ih hrest' hleft hright)
  | right hrest ih =>
    cases hwoven' with
    | right hrest' =>
      obtain ⟨hitem, hright⟩ := List.forall₂_cons.mp hright
      exact .cons hitem (ih hrest' hleft hright)

end Woven

@[simp] theorem interleave_nil_left (right : List Event) : interleave [] right = right := by
  simp [interleave]

@[simp] theorem interleave_nil_right (left : List Event) : interleave left [] = left := by
  simp [interleave]

/-- Performances whose times compare alike are interleaved alike. -/
theorem exists_woven_interleave {R : Event → Event → Prop}
    (hcompare : ∀ l l' r r', R l l' → R r r' →
      (l.time.value < r.time.value ↔ l'.time.value < r'.time.value))
    {left left' right right' : List Event}
    (hleft : List.Forall₂ R left left') (hright : List.Forall₂ R right right') :
    ∃ sides, Woven sides left right (interleave left right) ∧
      Woven sides left' right' (interleave left' right') := by
  induction hleft generalizing right right' with
  | nil =>
    rw [interleave_nil_left, interleave_nil_left]
    exact ⟨_, .rightOnly right, hright.length_eq ▸ .rightOnly right'⟩
  | @cons l l' ls ls' hl hls ihleft =>
    induction hright with
    | nil =>
      have hleft : List.Forall₂ R (l :: ls) (l' :: ls') := .cons hl hls
      rw [interleave_nil_right, interleave_nil_right]
      exact ⟨_, .leftOnly (l :: ls), hleft.length_eq ▸ .leftOnly (l' :: ls')⟩
    | @cons r r' rs rs' hr hrs ihright =>
      rw [interleave_cons_cons, interleave_cons_cons]
      by_cases hearlier : l.time.value < r.time.value
      · obtain ⟨sides, hwoven, hwoven'⟩ := ihleft (.cons hr hrs)
        rw [if_pos hearlier, if_pos ((hcompare _ _ _ _ hl hr).mp hearlier)]
        exact ⟨.left :: sides, .left hwoven, .left hwoven'⟩
      · obtain ⟨sides, hwoven, hwoven'⟩ := ihright
        rw [if_neg hearlier, if_neg (mt (hcompare _ _ _ _ hl hr).mpr hearlier)]
        exact ⟨.right :: sides, .right hwoven, .right hwoven'⟩

/-- Interleavings of related performances are related when their times compare alike. -/
theorem forall₂_interleave {R : Event → Event → Prop}
    (hcompare : ∀ l l' r r', R l l' → R r r' →
      (l.time.value < r.time.value ↔ l'.time.value < r'.time.value))
    {left left' right right' : List Event}
    (hleft : List.Forall₂ R left left') (hright : List.Forall₂ R right right') :
    List.Forall₂ R (interleave left right) (interleave left' right') := by
  obtain ⟨sides, hwoven, hwoven'⟩ := exists_woven_interleave hcompare hleft hright
  exact hwoven.forall₂ hwoven' hleft hright

/-- Events that keep their times may be worked through before or after they are interleaved. -/
theorem mapM_interleave_eq_ok_iff {f : Event → Except Fault Event}
    (htime : ∀ event result, f event = .ok result → result.time = event.time)
    {left right results : List Event} :
    (interleave left right).mapM f = .ok results ↔
      ∃ l r, left.mapM f = .ok l ∧ right.mapM f = .ok r ∧ results = interleave l r := by
  have hcompare (a a' b b' : Event) (ha : f a = .ok a') (hb : f b = .ok b') :
      a.time.value < b.time.value ↔ a'.time.value < b'.time.value := by
    rw [htime a a' ha, htime b b' hb]
  have hforward {l r : List Event} (hl : left.mapM f = .ok l) (hr : right.mapM f = .ok r) :
      (interleave left right).mapM f = .ok (interleave l r) := by
    rw [mapM_eq_ok_iff] at hl hr ⊢
    exact forall₂_interleave hcompare hl hr
  constructor
  · intro hresults
    have hmembers : ∀ event ∈ left ++ right, ∃ result, f event = .ok result := fun event hevent =>
      exists_mapM_eq_ok_iff.mp ⟨results, hresults⟩ event
        ((interleave_perm left right).mem_iff.mpr hevent)
    obtain ⟨hleft, hright⟩ := List.forall_mem_append.mp hmembers
    obtain ⟨l, hl⟩ := exists_mapM_eq_ok_iff.mpr hleft
    obtain ⟨r, hr⟩ := exists_mapM_eq_ok_iff.mpr hright
    exact ⟨l, r, hl, hr, Except.ok.inj (hresults.symm.trans (hforward hl hr))⟩
  · rintro ⟨l, r, hl, hr, rfl⟩
    exact hforward hl hr

/-- Of three performances it does not matter which two are interleaved first. The event that goes
first is the last of the earliest heads either way. -/
theorem interleave_assoc (first second third : List Event) :
    interleave (interleave first second) third = interleave first (interleave second third) := by
  induction first generalizing second third with
  | nil => rw [interleave_nil_left, interleave_nil_left]
  | cons x first ihfirst =>
    induction second generalizing third with
    | nil => rw [interleave_nil_right, interleave_nil_left]
    | cons y second ihsecond =>
      induction third with
      | nil => rw [interleave_nil_right, interleave_nil_right]
      | cons z third ihthird =>
        rw [interleave_cons_cons x y, interleave_cons_cons y z]
        by_cases hxy : x.time.value < y.time.value
        · by_cases hyz : y.time.value < z.time.value
          · have hxz := hxy.trans hyz
            rw [if_pos hxy, if_pos hyz, interleave_cons_cons x z, if_pos hxz,
              interleave_cons_cons x y, if_pos hxy, ihfirst, interleave_cons_cons y z, if_pos hyz]
          · by_cases hxz : x.time.value < z.time.value
            · rw [if_pos hxy, if_neg hyz, interleave_cons_cons x z, if_pos hxz,
                interleave_cons_cons x z, if_pos hxz, ihfirst, interleave_cons_cons y z,
                if_neg hyz]
            · rw [if_pos hxy, if_neg hyz, interleave_cons_cons x z, if_neg hxz,
                interleave_cons_cons x z, if_neg hxz, ← ihthird, interleave_cons_cons x y,
                if_pos hxy]
        · by_cases hyz : y.time.value < z.time.value
          · rw [if_neg hxy, if_pos hyz, interleave_cons_cons y z, if_pos hyz,
              interleave_cons_cons x y, if_neg hxy, ihsecond]
          · have hxz : ¬ x.time.value < z.time.value := by
              rw [not_lt] at hxy hyz ⊢
              exact hyz.trans hxy
            rw [if_neg hxy, if_neg hyz, interleave_cons_cons y z, if_neg hyz,
              interleave_cons_cons x z, if_neg hxz, ← ihthird, interleave_cons_cons x y,
              if_neg hxy]

end Polyphony.Performance
