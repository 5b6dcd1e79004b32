import Mathlib.Data.List.Sort
import Polyphony.Performance.Outcome
import Polyphony.Proofs.Ratio.Comparison

/-!
# Joined outcomes

Two performances that go on together are interleaved by the values of their times. What two joined
outcomes come to is stated here by values, for pieces one after another and for pieces together.
-/

namespace Polyphony

namespace Performance

/-- The events of two performances that go on together: of the first events left, the right one
goes first unless the left one is strictly earlier. -/
def interleave (left right : List Event) : List Event :=
  right.merge left fun r l => r.time.value ≤ l.time.value

theorem interleave_cons_cons (l r : Event) (left right : List Event) :
    interleave (l :: left) (r :: right) =
      if l.time.value < r.time.value then l :: interleave left (r :: right)
      else r :: interleave (l :: left) right := by
  by_cases hearlier : l.time.value < r.time.value
  · rw [if_pos hearlier, interleave, List.cons_merge_cons_neg _ _ _ (by simpa using hearlier)]
    rfl
  · rw [if_neg hearlier, interleave, List.cons_merge_cons_pos _ _ _ (by simpa using hearlier)]
    rfl

/-- Merging gives the interleaving. -/
theorem eq_interleave_of_merge {left right events : List Event}
    (hmerge : merge left right = .ok events) : events = interleave left right := by
  fun_induction merge left right generalizing events with
  | case1 right =>
    obtain rfl : right = events := by simpa using hmerge
    simp [interleave]
  | case2 left hleft =>
    obtain rfl : left = events := by simpa using hmerge
    simp [interleave]
  | case3 l left r right ihleft ihright =>
    obtain ⟨earlier, hlt, hchoice⟩ := bind_eq_ok_iff.mp hmerge
    obtain ⟨_, _, rfl⟩ := Ratio.lt_eq_ok_iff.mp hlt
    rw [interleave_cons_cons]
    by_cases hearlier : l.time.value < r.time.value
    · obtain ⟨rest, hrest, rfl⟩ := by simpa [hearlier] using hchoice
      rw [if_pos hearlier, ihleft hrest]
    · obtain ⟨rest, hrest, rfl⟩ := by simpa [hearlier] using hchoice
      rw [if_neg hearlier, ihright hrest]

/-- Merging looks at the times of events only, so what leaves them alone may be done before it. -/
theorem merge_map {f : Event → Event} (htime : ∀ event, (f event).time = event.time)
    (left right : List Event) :
    merge (left.map f) (right.map f) = List.map f <$> merge left right := by
  fun_induction merge left right with
  | case1 right =>
    rw [List.map_nil, merge]
    rfl
  | case2 left hleft =>
    cases left with
    | nil => exact absurd rfl hleft
    | cons l left =>
      rw [List.map_nil, List.map_cons, merge]
      · rfl
      · exact List.cons_ne_nil _ _
  | case3 l left r right ihleft ihright =>
    rw [List.map_cons, List.map_cons, merge, htime, htime]
    simp only [List.map_cons] at ihleft ihright
    cases l.time.lt r.time with
    | error fault => rfl
    | ok earlier =>
      cases earlier with
      | true =>
        change (List.cons (f l) <$> merge _ _) = List.map f <$> (List.cons l <$> merge _ _)
        rw [ihleft]
        cases merge left (r :: right) <;> rfl
      | false =>
        change (List.cons (f r) <$> merge _ _) = List.map f <$> (List.cons r <$> merge _ _)
        rw [ihright]
        cases merge (l :: left) right <;> rfl

/-- Events at times that have values can be merged. -/
theorem merge_eq_ok {left right : List Event} (hleft : ∀ event ∈ left, event.time.Defined)
    (hright : ∀ event ∈ right, event.time.Defined) :
    merge left right = .ok (interleave left right) := by
  fun_induction merge left right with
  | case1 right => simp [interleave, pure, Except.pure]
  | case2 left _ => simp [interleave, pure, Except.pure]
  | case3 l left r right ihleft ihright =>
    obtain ⟨hl, hls⟩ := List.forall_mem_cons.mp hleft
    obtain ⟨hr, hrs⟩ := List.forall_mem_cons.mp hright
    refine bind_eq_ok_iff.mpr ⟨_, Ratio.lt_eq_ok_iff.mpr ⟨hl, hr, rfl⟩, ?_⟩
    rw [interleave_cons_cons]
    by_cases hearlier : l.time.value < r.time.value
    · simp [hearlier, ihleft hls hright, bind, Except.bind, pure, Except.pure]
    · simp [hearlier, ihright hleft hrs, bind, Except.bind, pure, Except.pure]

/-- An interleaving has the events of both performances. -/
theorem interleave_perm (left right : List Event) :
    (interleave left right).Perm (left ++ right) :=
  (List.merge_perm_append _).trans List.perm_append_comm

/-- What holds of the events of both performances holds of those of the interleaving. -/
theorem forall_mem_interleave {left right : List Event} {kind : Event → Prop}
    (hleft : ∀ event ∈ left, kind event) (hright : ∀ event ∈ right, kind event) :
    ∀ event ∈ interleave left right, kind event := by
  intro event hevent
  have hboth : event ∈ left ++ right := (interleave_perm left right).mem_iff.mp hevent
  exact List.forall_mem_append.mpr ⟨hleft, hright⟩ event hboth

/-- Performances in the order of time are interleaved in the order of time. -/
theorem interleave_pairwise {left right : List Event}
    (hleft : left.Pairwise fun a b => a.time.value ≤ b.time.value)
    (hright : right.Pairwise fun a b => a.time.value ≤ b.time.value) :
    (interleave left right).Pairwise fun a b => a.time.value ≤ b.time.value := by
  let le (a b : Event) : Bool := a.time.value ≤ b.time.value
  have htrans (a b c : Event) (hab : le a b) (hbc : le b c) : le a c := by
    simp only [le, decide_eq_true_eq] at *
    exact hab.trans hbc
  have htotal (a b : Event) : le a b || le b a := by
    simpa [le] using le_total a.time.value b.time.value
  have hmerge := List.pairwise_merge htrans htotal right left
    (by simpa [le] using hright) (by simpa [le] using hleft)
  simpa [interleave, le] using hmerge

end Performance

namespace Outcome

/-- One piece after another: the events in a row, and the sum of the times. -/
theorem followedBy_eq_ok_iff {left right outcome : Outcome} :
    left.followedBy right = .ok outcome ↔
      left.elapsed.Defined ∧ right.elapsed.Defined ∧
        outcome = ⟨left.events ++ right.events,
          .ofValue (left.elapsed.value + right.elapsed.value)⟩ := by
  simp only [followedBy, bind_eq_ok_iff, Ratio.add_eq_ok_iff, pure_eq_ok_iff]
  constructor
  · rintro ⟨elapsed, ⟨hleft, hright, rfl⟩, rfl⟩
    exact ⟨hleft, hright, rfl⟩
  · rintro ⟨hleft, hright, rfl⟩
    exact ⟨_, ⟨hleft, hright, rfl⟩, rfl⟩

/-- Two pieces together: the events interleaved, and the longer of the times. -/
theorem eq_of_together {left right outcome : Outcome}
    (htogether : left.together right = .ok outcome) :
    outcome = ⟨Performance.interleave left.events right.events,
      if left.elapsed.value < right.elapsed.value then right.elapsed else left.elapsed⟩ := by
  simp only [together, bind_eq_ok_iff, Ratio.max_eq_ok_iff, pure_eq_ok_iff] at htogether
  obtain ⟨events, hmerge, elapsed, ⟨_, _, rfl⟩, rfl⟩ := htogether
  rw [Performance.eq_interleave_of_merge hmerge]

/-- The outcome with every event changed. -/
def recast (f : Event → Event) (outcome : Outcome) : Outcome :=
  { outcome with events := outcome.events.map f }

@[simp] theorem recast_id : recast id = id := by
  funext outcome
  rw [recast, List.map_id, id]

/-- Changed outcomes follow each other as before. -/
theorem followedBy_recast (f : Event → Event) (left right : Outcome) :
    (left.recast f).followedBy (right.recast f) = recast f <$> left.followedBy right := by
  simp only [followedBy, recast, ← List.map_append]
  cases left.elapsed.add right.elapsed <;> rfl

/-- Changed outcomes are merged as before if the change leaves times alone. -/
theorem together_recast {f : Event → Event} (htime : ∀ event, (f event).time = event.time)
    (left right : Outcome) :
    (left.recast f).together (right.recast f) = recast f <$> left.together right := by
  simp only [together, recast, Performance.merge_map htime]
  cases Performance.merge left.events right.events with
  | error fault => rfl
  | ok events => cases left.elapsed.max right.elapsed <;> rfl

end Outcome

end Polyphony
