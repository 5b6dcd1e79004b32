import Polyphony.Proofs.Performance.Weave
import Polyphony.Proofs.Sorting.Rearrangement

/-!
# Merging and stable sorting

A list in the order of time is determined by its events at each time. Interleaving keeps the events
at each time, those of the right performance before those of the left one, and so does a stable sort
of the right performance followed by the left one. So two performances in the order of time are
merged into their stable sort. Of performances in any order, merging is still a weave.
-/

namespace Polyphony.Performance

/-- The first event may stand before the second one in the order of time. -/
def inTime (a b : Event) : Bool := a.time.value ≤ b.time.value

theorem inTime_iff {a b : Event} : inTime a b ↔ a.time.value ≤ b.time.value := decide_eq_true_iff

theorem inTime_trans (a b c : Event) (hab : inTime a b) (hbc : inTime b c) : inTime a c :=
  inTime_iff.mpr ((inTime_iff.mp hab).trans (inTime_iff.mp hbc))

theorem inTime_total (a b : Event) : inTime a b || inTime b a := by
  simpa only [Bool.or_eq_true, inTime_iff] using le_total a.time.value b.time.value

/-- The events at one time, in their order. -/
def simultaneous (time : Rat) (events : List Event) : List Event :=
  events.filter fun event => event.time.value = time

section Cons

variable {time : Rat} {event : Event} {events : List Event}

theorem simultaneous_cons_of_eq (heq : event.time.value = time) :
    simultaneous time (event :: events) = event :: simultaneous time events :=
  List.filter_cons_of_pos (decide_eq_true heq)

theorem simultaneous_cons_of_ne (hne : event.time.value ≠ time) :
    simultaneous time (event :: events) = simultaneous time events :=
  List.filter_cons_of_neg (by simpa using hne)

/-- Before the first of the events in the order of time there are none. -/
theorem simultaneous_eq_nil (hevents : (event :: events).Pairwise fun a b => inTime a b)
    (hearlier : time < event.time.value) : simultaneous time (event :: events) = [] := by
  refine List.filter_eq_nil_iff.mpr fun other hother => ?_
  have hle : event.time.value ≤ other.time.value := by
    rcases List.mem_cons.mp hother with rfl | hrest
    · exact le_rfl
    · exact inTime_iff.mp (List.rel_of_pairwise_cons hevents hrest)
  simpa using (hearlier.trans_le hle).ne'

end Cons

/-- At the time of an event of the one list, the other list has no event before its first one. -/
theorem head_inTime {x y : Event} {xs ys : List Event}
    (hys : (y :: ys).Pairwise fun a b => inTime a b)
    (hsame : ∀ time, simultaneous time (x :: xs) = simultaneous time (y :: ys)) :
    y.time.value ≤ x.time.value := by
  by_contra hlater
  have hnone := simultaneous_eq_nil hys (not_le.mp hlater)
  rw [← hsame, simultaneous_cons_of_eq rfl] at hnone
  exact List.cons_ne_nil _ _ hnone

/-- Lists in the order of time that have the same events at each time are one list. -/
theorem eq_of_simultaneous {xs ys : List Event} (hxs : xs.Pairwise fun a b => inTime a b)
    (hys : ys.Pairwise fun a b => inTime a b)
    (hsame : ∀ time, simultaneous time xs = simultaneous time ys) : xs = ys := by
  induction xs generalizing ys with
  | nil =>
    cases ys with
    | nil => rfl
    | cons y ys => simpa [simultaneous_cons_of_eq, simultaneous] using hsame y.time.value
  | cons x xs ih =>
    cases ys with
    | nil => simpa [simultaneous_cons_of_eq, simultaneous] using hsame x.time.value
    | cons y ys =>
      have htime : y.time.value = x.time.value :=
        (head_inTime hys hsame).antisymm (head_inTime hxs fun time => (hsame time).symm)
      have hhead := hsame x.time.value
      rw [simultaneous_cons_of_eq rfl, simultaneous_cons_of_eq htime] at hhead
      obtain ⟨rfl, hrest⟩ := List.cons.inj hhead
      refine congrArg (x :: ·) (ih hxs.of_cons hys.of_cons fun time => ?_)
      by_cases hnow : x.time.value = time
      · exact hnow ▸ hrest
      · rw [← simultaneous_cons_of_ne hnow, hsame, simultaneous_cons_of_ne hnow]

/-- At each time, an interleaving has the events of the right performance and then those of the left
one. -/
theorem simultaneous_interleave {left right : List Event}
    (hright : right.Pairwise fun a b => inTime a b) (time : Rat) :
    simultaneous time (interleave left right) =
      simultaneous time right ++ simultaneous time left := by
  induction left generalizing right with
  | nil => simp [simultaneous]
  | cons l left ihleft =>
    induction right with
    | nil => simp [simultaneous]
    | cons r right ihright =>
      rw [interleave_cons_cons]
      by_cases hearlier : l.time.value < r.time.value
      · rw [if_pos hearlier]
        by_cases hl : l.time.value = time
        · -- The left event is at the time, so those of the right performance are all later.
          rw [simultaneous_cons_of_eq hl, simultaneous_cons_of_eq hl, ihleft hright,
            simultaneous_eq_nil hright (hl ▸ hearlier), List.nil_append, List.nil_append]
        · rw [simultaneous_cons_of_ne hl, simultaneous_cons_of_ne hl, ihleft hright]
      · rw [if_neg hearlier]
        by_cases hr : r.time.value = time
        · rw [simultaneous_cons_of_eq hr, simultaneous_cons_of_eq hr, ihright hright.of_cons,
            List.cons_append]
        · rw [simultaneous_cons_of_ne hr, simultaneous_cons_of_ne hr, ihright hright.of_cons]

/-- A stable sort keeps the events at each time as they are. -/
theorem simultaneous_mergeSort (events : List Event) (time : Rat) :
    simultaneous time (events.mergeSort inTime) = simultaneous time events := by
  refine Sorting.filter_mergeSort inTime_trans inTime_total (fun a b ha hb => ?_) events
  rw [inTime_iff, of_decide_eq_true ha, of_decide_eq_true hb]

/-- Performances in the order of time are interleaved into the stable sort of both, the right one
first. -/
theorem interleave_eq_mergeSort {left right : List Event}
    (hleft : left.Pairwise fun a b => inTime a b)
    (hright : right.Pairwise fun a b => inTime a b) :
    interleave left right = (right ++ left).mergeSort inTime := by
  have hinterleave : (interleave left right).Pairwise fun a b => inTime a b :=
    List.pairwise_merge inTime_trans inTime_total right left hright hleft
  have hsorted := List.pairwise_mergeSort inTime_trans inTime_total (right ++ left)
  refine eq_of_simultaneous hinterleave hsorted fun time => ?_
  rw [simultaneous_interleave hright, simultaneous_mergeSort, simultaneous, simultaneous,
    simultaneous, List.filter_append]

/-- An interleaving is a weave of its parts. -/
theorem exists_woven (left right : List Event) :
    ∃ sides, Woven sides left right (interleave left right) := by
  have hcompare (l l' r r' : Event) (hl : l = l') (hr : r = r') :
      l.time.value < r.time.value ↔ l'.time.value < r'.time.value := by rw [hl, hr]
  obtain ⟨sides, hwoven, _⟩ := exists_woven_interleave hcompare
    (List.forall₂_refl left) (List.forall₂_refl right)
  exact ⟨sides, hwoven⟩

/-- Of events at one time, those of the right performance come first. -/
theorem pair_sublist_interleave {left right : List Event}
    (hleft : left.Pairwise fun a b => inTime a b)
    (hright : right.Pairwise fun a b => inTime a b) {l r : Event} (hl : l ∈ left) (hr : r ∈ right)
    (hsame : l.time.value = r.time.value) : List.Sublist [r, l] (interleave left right) := by
  have hpair : List.Sublist [r, l] (right ++ left) :=
    (List.singleton_sublist.mpr hr).append (List.singleton_sublist.mpr hl)
  rw [interleave_eq_mergeSort hleft hright]
  exact List.pair_sublist_mergeSort inTime_trans inTime_total (inTime_iff.mpr hsame.ge) hpair

/-- The times of the events have values. -/
def Timed (events : List Event) : Prop := ∀ event ∈ events, event.time.Defined

instance : DecidablePred Timed :=
  fun events => inferInstanceAs (Decidable (∀ event ∈ events, event.time.Defined))

/-- Merging performances at times that have values gives a weave of both. When both are in the order
of time, it is the stable sort of the right one followed by the left one, so that of events at one
time those of the right come first. It does not matter which two of three performances are merged
first, whether or not they are in the order of time, and merging with nothing changes nothing. -/
theorem merge_weaves_stably {first second third : List Event} (hfirst : Timed first)
    (hsecond : Timed second) (hthird : Timed third) :
    (∃ merged, merge first second = .ok merged ∧
      (∃ sides, Woven sides first second merged) ∧
      ((first.Pairwise fun a b => inTime a b) → (second.Pairwise fun a b => inTime a b) →
        merged = (second ++ first).mergeSort inTime ∧
        ∀ l ∈ first, ∀ r ∈ second, l.time.value = r.time.value → List.Sublist [r, l] merged)) ∧
    (∃ before after all, merge first second = .ok before ∧ merge second third = .ok after ∧
      merge before third = .ok all ∧ merge first after = .ok all) ∧
    merge first [] = .ok first ∧ merge [] first = .ok first := by
  have hbefore : Timed (interleave first second) := forall_mem_interleave hfirst hsecond
  have hafter : Timed (interleave second third) := forall_mem_interleave hsecond hthird
  refine ⟨⟨_, merge_eq_ok hfirst hsecond, exists_woven first second, ?_⟩, ?_, ?_, ?_⟩
  · intro hfirstOrder hsecondOrder
    exact ⟨interleave_eq_mergeSort hfirstOrder hsecondOrder, fun l hl r hr hsame =>
      pair_sublist_interleave hfirstOrder hsecondOrder hl hr hsame⟩
  · refine ⟨_, _, interleave (interleave first second) third, merge_eq_ok hfirst hsecond,
      merge_eq_ok hsecond hthird, merge_eq_ok hbefore hthird, ?_⟩
    rw [interleave_assoc]
    exact merge_eq_ok hfirst hafter
  · rw [merge_eq_ok hfirst (List.forall_mem_nil _), interleave_nil_right]
  · rw [merge_eq_ok (List.forall_mem_nil _) hfirst, interleave_nil_left]

/-- A stroke of a bell at a time. -/
def stroke (pitch : Int) (time : Ratio) : Event where
  time := time
  pitch := pitch
  volume := 127
  length := ⟨1, 4⟩
  duration := ⟨1, 8⟩
  channel := .first
  on := true
  params := []

/-- A low bell at the start and after a half. -/
def hours : List Event := [stroke 48 ⟨0, 1⟩, stroke 48 ⟨2, 4⟩]

/-- A high bell after a quarter and a half. -/
def quarters : List Event := [stroke 72 ⟨1, 4⟩, stroke 72 ⟨-1, -2⟩]

/-- An echo that is not in the order of time. -/
def echoes : List Event := [stroke 79 ⟨3, 8⟩, stroke 79 ⟨0, 5⟩]

/-- The bells are merged into their stable sort, and the echo with them in either way. -/
theorem bells_merged_stably :
    (Timed hours ∧ Timed quarters ∧ Timed echoes) ∧
    ((hours.Pairwise fun a b => inTime a b) ∧ quarters.Pairwise fun a b => inTime a b) ∧
    merge hours quarters = .ok ((quarters ++ hours).mergeSort inTime) ∧
    (∃ before after all, merge hours quarters = .ok before ∧ merge quarters echoes = .ok after ∧
      merge before echoes = .ok all ∧ merge hours after = .ok all) := by
  have htimed : Timed hours ∧ Timed quarters ∧ Timed echoes := by decide
  have hordered : (hours.Pairwise fun a b => inTime a b) ∧
      quarters.Pairwise fun a b => inTime a b := by decide +kernel
  obtain ⟨⟨merged, hmerge, _, hstable⟩, hassoc, _⟩ :=
    merge_weaves_stably htimed.1 htimed.2.1 htimed.2.2
  obtain ⟨rfl, _⟩ := hstable hordered.1 hordered.2
  exact ⟨htimed, hordered, hmerge, hassoc⟩

end Polyphony.Performance
