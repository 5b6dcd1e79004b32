import Mathlib.Data.List.Forall2
import Polyphony.Journal.Recorded

/-!
# Success of sequences

A sequence of computations succeeds when each of them does, one on the result of the other. These
equivalences take a successful sequence apart; `Recorded.result_bind` and `Recorded.result_map`
bring recorded sequences to this form.
-/

namespace Polyphony

variable {α β γ δ ε : Type}

/-- A sequence has a result when its first part has one that the second goes on with. -/
@[simp] theorem bind_eq_ok_iff {x : Except Fault α} {f : α → Except Fault β} {b : β} :
    x >>= f = .ok b ↔ ∃ a, x = .ok a ∧ f a = .ok b := by
  cases x <;> simp [bind, Except.bind]

/-- Sequences with one first part end alike when their second parts do on its result. -/
theorem bind_congr_of_ok {x : Except Fault α} {f g : α → Except Fault β}
    (hnext : ∀ a, x = .ok a → f a = g a) : x >>= f = x >>= g := by
  cases x with
  | error fault => rfl
  | ok a => exact hnext a rfl

/-- A result is changed only where there is one. -/
@[simp] theorem map_eq_ok_iff {x : Except Fault α} {f : α → β} {b : β} :
    f <$> x = .ok b ↔ ∃ a, x = .ok a ∧ f a = b := by
  cases x <;> simp [Functor.map, Except.map]

@[simp] theorem pure_eq_ok_iff {a b : α} : (pure a : Except Fault α) = .ok b ↔ a = b := by
  simp [pure, Except.pure]

/-- A list is worked through when each of its members is. -/
theorem mapM_eq_ok_iff {f : α → Except Fault β} {xs : List α} {ys : List β} :
    xs.mapM f = .ok ys ↔ List.Forall₂ (fun x y => f x = .ok y) xs ys := by
  induction xs generalizing ys with
  | nil => rw [List.mapM_nil, pure_eq_ok_iff, List.forall₂_nil_left_iff, eq_comm]
  | cons x xs ih =>
    simp only [List.mapM_cons, bind_eq_ok_iff, pure_eq_ok_iff, List.forall₂_cons_left_iff, ih]
    constructor
    · rintro ⟨y, hy, rest, hrest, rfl⟩
      exact ⟨y, rest, hy, hrest, rfl⟩
    · rintro ⟨y, rest, hy, hrest, rfl⟩
      exact ⟨y, hy, rest, hrest, rfl⟩

/-- What every related member is holds of all members of the second list. -/
theorem forall_mem_of_forall₂ {R : α → β → Prop} {shape : β → Prop}
    (himp : ∀ x y, R x y → shape y) {xs : List α} {ys : List β}
    (hrelated : List.Forall₂ R xs ys) : ∀ y ∈ ys, shape y := by
  induction hrelated with
  | nil => exact List.forall_mem_nil _
  | cons hhead _ ih => exact List.forall_mem_cons.mpr ⟨himp _ _ hhead, ih⟩

/-- A list is related to a list when every member is related to something. -/
theorem exists_forall₂_iff {R : α → β → Prop} {xs : List α} :
    (∃ ys, List.Forall₂ R xs ys) ↔ ∀ x ∈ xs, ∃ y, R x y := by
  constructor
  · rintro ⟨ys, hrelated⟩
    exact forall_mem_of_forall₂ (fun y x hxy => ⟨y, hxy⟩) hrelated.flip
  · intro hxs
    induction xs with
    | nil => exact ⟨[], .nil⟩
    | cons x xs ih =>
      obtain ⟨⟨y, hy⟩, hrest⟩ := List.forall_mem_cons.mp hxs
      obtain ⟨ys, hys⟩ := ih hrest
      exact ⟨y :: ys, .cons hy hys⟩

/-- An order of members goes over to the members that they are related to. -/
theorem pairwise_of_forall₂ {R : α → β → Prop} {P : α → α → Prop} {Q : β → β → Prop}
    (hstep : ∀ a a' b b', P a a' → R a b → R a' b' → Q b b') {xs : List α} {ys : List β}
    (hrelated : List.Forall₂ R xs ys) (hxs : xs.Pairwise P) : ys.Pairwise Q := by
  have hlength := hrelated.length_eq
  rw [List.pairwise_iff_getElem] at hxs ⊢
  intro i j hi hj hlt
  have hfirst := hrelated.get (hlength ▸ hi) hi
  have hsecond := hrelated.get (hlength ▸ hj) hj
  exact hstep _ _ _ _ (hxs i j (hlength ▸ hi) (hlength ▸ hj) hlt) hfirst hsecond

/-- What holds of the result of each member of a kind holds of all results of such members. -/
theorem forall_mem_of_mapM_eq_ok {kind : α → Prop} {shape : β → Prop} {f : α → Except Fault β}
    (hstep : ∀ x y, kind x → f x = .ok y → shape y) {xs : List α} {ys : List β}
    (hmap : xs.mapM f = .ok ys) (hxs : ∀ x ∈ xs, kind x) : ∀ y ∈ ys, shape y := by
  have hboth := (List.forall₂_and_left xs ys).mpr ⟨hxs, mapM_eq_ok_iff.mp hmap⟩
  exact forall_mem_of_forall₂ (fun x y hxy => hstep x y hxy.1 hxy.2) hboth

/-- When one list is worked through and each of its members is matched by a related one, so is a
list of related members, with related results. -/
theorem exists_mapM_eq_ok {R : α → γ → Prop} {S : β → δ → Prop} {f : α → Except Fault β}
    {g : γ → Except Fault δ}
    (hstep : ∀ x x' y, R x x' → f x = .ok y → ∃ y', g x' = .ok y' ∧ S y y')
    {xs : List α} {xs' : List γ} {ys : List β} (hrelated : List.Forall₂ R xs xs')
    (hmap : xs.mapM f = .ok ys) : ∃ ys', xs'.mapM g = .ok ys' ∧ List.Forall₂ S ys ys' := by
  simp only [mapM_eq_ok_iff] at hmap ⊢
  induction hrelated generalizing ys with
  | nil =>
    obtain rfl := List.forall₂_nil_left_iff.mp hmap
    exact ⟨[], .nil, .nil⟩
  | @cons x x' xs xs' hx hxs ih =>
    obtain ⟨y, rest, hy, hrest, rfl⟩ := List.forall₂_cons_left_iff.mp hmap
    obtain ⟨y', hy', hrelatedHead⟩ := hstep x x' y hx hy
    obtain ⟨rest', hrest', hrelatedRest⟩ := ih hrest
    exact ⟨y' :: rest', .cons hy' hrest', .cons hrelatedHead hrelatedRest⟩

/-- There is a result for a list exactly when there is one for each of its members. -/
theorem exists_mapM_eq_ok_iff {f : α → Except Fault β} {xs : List α} :
    (∃ ys, xs.mapM f = .ok ys) ↔ ∀ x ∈ xs, ∃ y, f x = .ok y := by
  simp only [mapM_eq_ok_iff]
  exact exists_forall₂_iff

/-- Where the members of a kind have results, and these are known, a list of that kind has the list
of the known results. -/
theorem mapM_eq_ok_iff_map {f : α → Except Fault β} {kind : α → Prop} {g : α → β}
    (hf : ∀ x y, f x = .ok y ↔ kind x ∧ y = g x) {xs : List α} {ys : List β} :
    xs.mapM f = .ok ys ↔ (∀ x ∈ xs, kind x) ∧ ys = xs.map g := by
  induction xs generalizing ys with
  | nil =>
    rw [List.mapM_nil, pure_eq_ok_iff, eq_comm]
    exact ⟨fun hys => ⟨List.forall_mem_nil _, hys⟩, And.right⟩
  | cons x xs ih =>
    simp only [List.mapM_cons, bind_eq_ok_iff, pure_eq_ok_iff, List.forall_mem_cons, List.map_cons,
      hf, ih]
    constructor
    · rintro ⟨_, ⟨hx, rfl⟩, _, ⟨hxs, rfl⟩, rfl⟩
      exact ⟨⟨hx, hxs⟩, rfl⟩
    · rintro ⟨⟨hx, hxs⟩, rfl⟩
      exact ⟨_, ⟨hx, rfl⟩, _, ⟨hxs, rfl⟩, rfl⟩

/-- A list may be worked through twice, or once with both steps for each member. -/
theorem mapM_bind_eq_ok_iff {f : α → Except Fault β} {g : β → Except Fault γ} {xs : List α}
    {zs : List γ} :
    xs.mapM (fun x => f x >>= g) = .ok zs ↔ ∃ ys, xs.mapM f = .ok ys ∧ ys.mapM g = .ok zs := by
  induction xs generalizing zs with
  | nil => simp [List.mapM_nil]
  | cons x xs ih =>
    simp only [List.mapM_cons, bind_eq_ok_iff, pure_eq_ok_iff, ih]
    constructor
    · rintro ⟨z, ⟨y, hy, hz⟩, zs, ⟨ys, hys, hzs⟩, rfl⟩
      refine ⟨y :: ys, ⟨y, hy, ys, hys, rfl⟩, ?_⟩
      rw [List.mapM_cons]
      exact bind_eq_ok_iff.mpr ⟨z, hz, bind_eq_ok_iff.mpr ⟨zs, hzs, rfl⟩⟩
    · rintro ⟨_, ⟨y, hy, ys, hys, rfl⟩, hmap⟩
      rw [List.mapM_cons] at hmap
      obtain ⟨z, hz, hrest⟩ := bind_eq_ok_iff.mp hmap
      obtain ⟨zs, hzs, hcons⟩ := bind_eq_ok_iff.mp hrest
      exact ⟨z, ⟨y, hy, hz⟩, zs, ⟨ys, hys, hzs⟩, pure_eq_ok_iff.mp hcons⟩

/-- What is done with a recorded result is done with the result. -/
@[simp] theorem Recorded.result_map (f : α → β) (x : Recorded ε α) :
    (f <$> x).result = f <$> x.result := by
  rw [map_eq_pure_bind, Recorded.result_bind]
  cases x.result <;> rfl

namespace Recorded

/-- A result that is there leaves the computation that goes on with it. -/
theorem lift_bind_of_ok {outcome : Except Fault α} {a : α} (hok : outcome = .ok a)
    (f : α → Recorded ε β) : (liftM outcome : Recorded ε α) >>= f = f a := by
  subst hok
  rfl

/-- A computation with a result ends as what goes on with it. -/
theorem result_bind_of_ok {x : Recorded ε α} {a : α} (hok : x.result = .ok a)
    (f : α → Recorded ε β) : (x >>= f).result = (f a).result := by
  rw [result_bind, hok]
  rfl

/-- After a computation with a result stand the entries of what goes on with it. -/
theorem entries_bind_of_ok {x : Recorded ε α} {a : α} (hok : x.result = .ok a)
    (f : α → Recorded ε β) : (x >>= f).entries = x.entries ++ (f a).entries := by
  obtain ⟨entries, result⟩ := x
  subst hok
  rfl

end Recorded

end Polyphony
