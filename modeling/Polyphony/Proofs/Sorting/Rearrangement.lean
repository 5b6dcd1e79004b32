import Mathlib.Algebra.Order.Group.Multiset
import Mathlib.Tactic.Abel
import Polyphony.Proofs.Journal.Endings
import Polyphony.Sorting.Runs

/-!
# Sorting rearranges

Whatever the comparisons answer, and whether or not they agree with any order, a sort gives its
items in some order, and it fails only as a comparison of two of its items fails. Every part of the
sort keeps the items that it is given: galloping only says where a list is cut, and the parts of the
cuts all come back. A stable sort in an order moves no two items past each other that are equal in
it.
-/

namespace Polyphony.Sorting

/-- Every comparison of two members answers, or has a fault of a kind. -/
def Judges {α : Type} (below : α → α → Except Fault Bool) (member : α → Prop)
    (bad : Fault → Prop) : Prop :=
  ∀ a b, member a → member b → Answers bad (below a b)

variable {α : Type} {member : α → Prop} {bad : Fault → Prop} {below : α → α → Except Fault Bool}

section Gallop

variable {stays : α → Except Fault Bool} {items : List α}

theorem halve_answers (side : End) (hstays : ∀ item ∈ items, Answers bad (stays item))
    (low high : Nat) : Answers bad (halve side stays items low high) := by
  fun_induction halve side stays items low high with
  | case1 low high hlow hnone => exact .pure trivial
  | case2 low high hlow item hitem ihstay ihgo =>
    refine (hstays item (List.mem_of_getElem? hitem)).bind fun answer _ => ?_
    cases answer with
    | true => exact ihstay
    | false => exact ihgo
  | case3 low high hlow => exact .pure trivial

theorem stride_answers (hstays : ∀ item ∈ items, Answers bad (stays item)) (last next : Nat) :
    Answers bad (stride stays items last next) := by
  fun_induction stride stays items last next with
  | case1 last next hnone => exact .pure trivial
  | case2 last next item hitem ih =>
    refine (hstays item (List.mem_of_getElem? hitem)).bind fun answer _ => ?_
    cases answer with
    | true => exact ih
    | false => exact .pure trivial

theorem countStaying_answers (side : End) (hstays : ∀ item ∈ items, Answers bad (stays item)) :
    Answers bad (countStaying side stays items) := by
  cases items with
  | nil => exact .pure trivial
  | cons first rest =>
    refine (hstays first List.mem_cons_self).bind fun answer _ => ?_
    cases answer with
    | true => exact (stride_answers hstays 0 1).bind fun places _ => halve_answers side hstays _ _
    | false => exact .pure trivial

end Gallop

/-- A list that is cut has the items of both parts. -/
theorem coe_take_add_drop (items : List α) (count : Nat) :
    (↑(items.take count) + ↑(items.drop count) : Multiset α) = ↑items := by
  rw [Multiset.coe_add, List.take_append_drop]

theorem coe_cons_eq_add (item : α) (items : List α) :
    (↑(item :: items) : Multiset α) = {item} + ↑items := rfl

/-- An item is put somewhere into a list. -/
theorem insertHalving_ends (hbelow : Judges below member bad) {item : α} (hitem : member item)
    {sorted : List α} (hsorted : ∀ other ∈ sorted, member other) :
    Ends (fun result : List α => (↑result : Multiset α) = {item} + ↑sorted) bad
      (insertHalving below item sorted) := by
  fun_induction insertHalving below item sorted with
  | case1 sorted hnone =>
    have hempty : sorted = [] := by
      cases sorted with
      | nil => rfl
      | cons first rest =>
        have hlength := congrArg List.length hnone
        simp only [List.length_drop, List.length_cons, List.length_nil] at hlength
        omega
    rw [hempty]
    exact .pure rfl
  | case2 sorted middle right hcut ihleft ihright =>
    have hparts := coe_take_add_drop sorted (sorted.length / 2)
    rw [hcut, coe_cons_eq_add] at hparts
    have hleft : ∀ other ∈ sorted.take (sorted.length / 2), member other :=
      fun other hother => hsorted other (List.mem_of_mem_take hother)
    have hcutMembers : ∀ other ∈ middle :: right, member other := fun other hother =>
      hsorted other (List.mem_of_mem_drop (hcut ▸ hother))
    obtain ⟨hmiddle, hright⟩ := List.forall_mem_cons.mp hcutMembers
    refine (hbelow item middle hitem hmiddle).bind fun answer _ => ?_
    cases answer with
    | true =>
      refine (ihleft hleft).bind fun left hleft => .pure ?_
      rw [← Multiset.coe_add, coe_cons_eq_add, hleft, ← hparts]
      abel
    | false =>
      refine (ihright hright).bind fun right hright => .pure ?_
      rw [← Multiset.coe_add, coe_cons_eq_add, hright, ← hparts]
      abel

/-- Items are put somewhere into a list one after another. -/
theorem insertAll_ends (hbelow : Judges below member bad) {sorted items : List α}
    (hsorted : ∀ item ∈ sorted, member item) (hitems : ∀ item ∈ items, member item) :
    Ends (fun result : List α => (↑result : Multiset α) = ↑sorted + ↑items) bad
      (insertAll below sorted items) := by
  induction items generalizing sorted with
  | nil => exact .pure (add_zero _).symm
  | cons item items ih =>
    obtain ⟨hitem, hrest⟩ := List.forall_mem_cons.mp hitems
    refine (insertHalving_ends hbelow hitem hsorted).bind fun inserted hinserted => ?_
    have hmembers : ∀ other ∈ inserted, member other := fun other hother => by
      rw [← Multiset.mem_coe, hinserted, Multiset.mem_add, Multiset.mem_singleton] at hother
      rcases hother with rfl | hother
      · exact hitem
      · exact hsorted other hother
    refine (ih hmembers hrest).imp fun result hresult => ?_
    rw [hresult, hinserted, coe_cons_eq_add]
    abel

theorem countRun_answers (hbelow : Judges below member bad) (down : Bool) {last : α}
    (hlast : member last) {items : List α} (hitems : ∀ item ∈ items, member item) :
    Answers bad (countRun below down last items) := by
  induction items generalizing last with
  | nil => exact .pure trivial
  | cons item items ih =>
    obtain ⟨hitem, hrest⟩ := List.forall_mem_cons.mp hitems
    refine (hbelow item last hitem hlast).bind fun answer _ => ?_
    split
    · exact (ih hitem hrest).bind fun count _ => .pure trivial
    · exact .pure trivial

theorem followers_answers (hbelow : Judges below member bad) {first : α} (hfirst : member first)
    {items : List α} (hitems : ∀ item ∈ items, member item) :
    Answers bad (followers below first items) := by
  cases items with
  | nil => exact .pure trivial
  | cons second items =>
    obtain ⟨hsecond, hrest⟩ := List.forall_mem_cons.mp hitems
    refine (hbelow second first hsecond hfirst).bind fun down _ => ?_
    exact (countRun_answers hbelow down hsecond hrest).bind fun count _ => .pure trivial

theorem rightFirst_answers (hbelow : Judges below member bad) (side : End) {left right : α}
    (hleft : member left) (hright : member right) :
    Answers bad (side.rightFirst below left right) := by
  cases side with
  | front => exact hbelow right left hright hleft
  | back => exact (hbelow right left hright hleft).map

theorem coe_assemble (side : End) (merged left right : List α) :
    (↑(side.assemble merged left right) : Multiset α) = ↑merged + (↑left + ↑right) := by
  cases side with
  | front =>
    simp only [End.assemble, ← Multiset.coe_add, Multiset.coe_reverse]
    abel
  | back =>
    simp only [End.assemble, ← Multiset.coe_add, Multiset.coe_reverse]
    abel

/-- What is left of two runs is merged into what is merged already. -/
theorem mergeFrom_ends (hbelow : Judges below member bad) (side : End) (gait : Gait)
    (patience : Nat) (merged : List α) {left right : List α} (hleft : ∀ item ∈ left, member item)
    (hright : ∀ item ∈ right, member item) :
    Ends (fun result : List α × Nat => (↑result.1 : Multiset α) = ↑merged + (↑left + ↑right)) bad
      (mergeFrom side below gait patience merged left right) := by
  fun_induction mergeFrom side below gait patience merged left right with
  | case1 gait patience merged x xs y ys hlast => exact .pure (coe_assemble side _ _ _)
  | case2 patience merged x xs y ys hlast p q ihright ihleft =>
    obtain ⟨hx, hxs⟩ := List.forall_mem_cons.mp hleft
    obtain ⟨hy, hys⟩ := List.forall_mem_cons.mp hright
    refine (rightFirst_answers hbelow side hx hy).bind fun answer _ => ?_
    cases answer with
    | true =>
      refine (ihright hleft hys).imp fun result hresult => ?_
      rw [hresult, coe_cons_eq_add y, coe_cons_eq_add y]
      abel
    | false =>
      refine (ihleft hxs hright).imp fun result hresult => ?_
      rw [hresult, coe_cons_eq_add x, coe_cons_eq_add x]
      abel
  | case3 patience merged x xs y ys hlast ih =>
    obtain ⟨hy, hys⟩ := List.forall_mem_cons.mp hright
    refine (countStaying_answers side fun z hz =>
      (rightFirst_answers hbelow side (hleft z hz) hy).map).bind fun p _ => ?_
    have hrest : ∀ item ∈ (x :: xs).drop p, member item :=
      fun item hitem => hleft item (List.mem_of_mem_drop hitem)
    refine (ih p hrest hys).imp fun result hresult => ?_
    rw [hresult, ← coe_take_add_drop (x :: xs) p, coe_cons_eq_add y, coe_cons_eq_add y,
      ← Multiset.coe_add, Multiset.coe_reverse]
    abel
  | case4 patience merged x xs y ys hlast p ihgallop ihwalk =>
    obtain ⟨hx, hxs⟩ := List.forall_mem_cons.mp hleft
    refine (countStaying_answers side fun z hz =>
      rightFirst_answers hbelow side hx (hright z hz)).bind fun q _ => ?_
    have hrest : ∀ item ∈ (y :: ys).drop q, member item :=
      fun item hitem => hright item (List.mem_of_mem_drop hitem)
    -- The item of the left run goes after those of the right run that come before it.
    have hkept (result : List α) (hresult : (↑result : Multiset α) =
        ↑(x :: (((y :: ys).take q).reverse ++ merged)) + (↑xs + ↑((y :: ys).drop q))) :
        (↑result : Multiset α) = ↑merged + (↑(x :: xs) + ↑(y :: ys)) := by
      rw [hresult, ← coe_take_add_drop (y :: ys) q, coe_cons_eq_add x, coe_cons_eq_add x,
        ← Multiset.coe_add, Multiset.coe_reverse]
      abel
    dsimp only
    split
    · exact .pure (hkept _ (coe_assemble side _ _ _))
    · split
      · exact (ihgallop q hxs hrest).imp fun result => hkept result.1
      · exact (ihwalk q hxs hrest).imp fun result => hkept result.1
  | case5 gait patience merged left right hother => exact .pure (coe_assemble side _ _ _)

/-- Two runs that cross at both ends are merged. -/
theorem mergeCrossed_ends (hbelow : Judges below member bad) (patience : Nat) {left right : List α}
    (hleft : ∀ item ∈ left, member item) (hright : ∀ item ∈ right, member item) :
    Ends (fun result : List α × Nat => (↑result.1 : Multiset α) = ↑left + ↑right) bad
      (mergeCrossed below patience left right) := by
  unfold mergeCrossed
  split
  · cases right with
    | nil => exact .pure (add_zero _).symm
    | cons y ys =>
      refine (mergeFrom_ends hbelow .front (.walk 0 0) patience [y] hleft
        (List.forall_mem_cons.mp hright).2).imp fun result hresult => ?_
      rw [hresult, coe_cons_eq_add y ys, Multiset.coe_singleton]
      abel
  · have hreversed : ∀ item ∈ left.reverse, member item :=
      fun item hitem => hleft item (List.mem_reverse.mp hitem)
    rw [← Multiset.coe_reverse left]
    cases hlast : left.reverse with
    | nil => exact .pure (zero_add _).symm
    | cons x xs =>
      rw [hlast] at hreversed
      refine (mergeFrom_ends hbelow .back (.walk 0 0) patience [x]
        (List.forall_mem_cons.mp hreversed).2
        fun item hitem => hright item (List.mem_reverse.mp hitem)).imp
          fun result hresult => ?_
      rw [hresult, coe_cons_eq_add x xs, Multiset.coe_singleton, Multiset.coe_reverse]
      abel

/-- Two runs are merged. -/
theorem merge_ends (hbelow : Judges below member bad) (patience : Nat) {left right : List α}
    (hleft : ∀ item ∈ left, member item) (hright : ∀ item ∈ right, member item) :
    Ends (fun result : List α × Nat => (↑result.1 : Multiset α) = ↑left + ↑right) bad
      (merge below patience left right) := by
  unfold merge
  cases right with
  | nil => exact .pure (add_zero _).symm
  | cons y ys =>
    obtain ⟨hy, _⟩ := List.forall_mem_cons.mp hright
    refine (countStaying_answers .front fun x hx => (hbelow y x hy (hleft x hx)).map).bind
      fun first _ => ?_
    have hcrossed : ∀ item ∈ left.drop first, member item :=
      fun item hitem => hleft item (List.mem_of_mem_drop hitem)
    dsimp only
    cases hlast : (left.drop first).getLast? with
    | none => exact .pure (Multiset.coe_add _ _).symm
    | some x =>
      have hx : member x := hcrossed x (List.mem_of_getLast? hlast)
      refine (countStaying_answers .back fun z hz =>
        (hbelow z x (hright z (List.mem_reverse.mp hz)) hx).map).bind fun last _ => ?_
      split
      · exact .pure (Multiset.coe_add _ _).symm
      · refine (mergeCrossed_ends hbelow patience hcrossed fun item hitem =>
          hright item (List.mem_of_mem_take hitem)).bind fun result hresult => .pure ?_
        rw [← Multiset.coe_add, ← Multiset.coe_add, hresult, ← coe_take_add_drop left first,
          ← coe_take_add_drop (y :: ys) ((y :: ys).length - last)]
        abel

/-- The items of runs. -/
def contents (runs : List (Run α)) : Multiset α :=
  (runs.map fun run => (↑run.items : Multiset α)).sum

@[simp] theorem contents_nil : contents ([] : List (Run α)) = 0 := rfl

@[simp] theorem contents_cons (run : Run α) (runs : List (Run α)) :
    contents (run :: runs) = ↑run.items + contents runs := by
  simp [contents]

/-- Two of several runs are merged. -/
theorem mergeRuns_ends (hbelow : Judges below member bad) (patience : Nat) {left right : Run α}
    {runs others : List (Run α)} (hmembers : ∀ item ∈ contents runs, member item)
    (hruns : contents runs = ↑left.items + ↑right.items + contents others) :
    Ends (fun result : Run α × Nat => ↑result.1.items + contents others = contents runs) bad
      (mergeRuns below patience left right) := by
  have hpair : ∀ item ∈ (↑left.items + ↑right.items : Multiset α), member item :=
    fun item hitem => hmembers item (hruns ▸ Multiset.mem_add.mpr (.inl hitem))
  refine (merge_ends hbelow patience
    (fun item hitem => hpair item (Multiset.mem_add.mpr (.inl hitem)))
    fun item hitem => hpair item (Multiset.mem_add.mpr (.inr hitem))).bind
      fun result hresult => .pure ?_
  rw [hresult, hruns]

theorem mergeDeeper_ends (hbelow : Judges below member bad) (power patience : Nat)
    {runs : List (Run α)} (hmembers : ∀ item ∈ contents runs, member item) :
    Ends (fun result : List (Run α) × Nat => contents result.1 = contents runs) bad
      (mergeDeeper below power patience runs) := by
  fun_induction mergeDeeper below power patience runs with
  | case1 patience last before others hpower ih =>
    have hpair : contents (last :: before :: others) =
        ↑before.items + ↑last.items + contents others := by
      rw [contents_cons, contents_cons]
      abel
    refine (mergeRuns_ends hbelow patience hmembers hpair).bind fun result hresult => ?_
    rw [← hresult, ← contents_cons] at hmembers ⊢
    exact ih result.1 result.2 hmembers
  | case2 patience last before others hpower => exact .pure rfl
  | case3 patience runs hother => exact .pure rfl

theorem addRun_ends (hbelow : Judges below member bad) (size patience : Nat)
    {runs : List (Run α)} (hmembers : ∀ item ∈ contents runs, member item) (run : Run α) :
    Ends (fun result : List (Run α) × Nat => contents result.1 = ↑run.items + contents runs) bad
      (addRun below size patience runs run) := by
  cases runs with
  | nil => exact .pure (contents_cons run [])
  | cons last others =>
    refine (mergeDeeper_ends hbelow (powerOf last.start last.size run.size size) patience
      hmembers).bind fun result hresult => ?_
    rw [← hresult]
    obtain ⟨_ | ⟨top, rest⟩, patience⟩ := result
    · exact .pure (contents_cons run [])
    · exact .pure (by simp only [contents_cons])

theorem mergeAll_ends (hbelow : Judges below member bad) (patience : Nat) {runs : List (Run α)}
    (hmembers : ∀ item ∈ contents runs, member item) :
    Ends (fun result : List α => (↑result : Multiset α) = contents runs) bad
      (mergeAll below patience runs) := by
  fun_induction mergeAll below patience runs with
  | case1 patience => exact .pure rfl
  | case2 patience run => exact .pure (by simp)
  | case3 patience last before =>
    have hpair : contents [last, before] =
        ↑before.items + ↑last.items + contents ([] : List (Run α)) := by
      rw [contents_cons, contents_cons]
      abel
    refine (mergeRuns_ends hbelow patience hmembers hpair).bind fun result hresult => .pure ?_
    rw [← hresult, contents_nil, add_zero]
  | case4 patience last before other others hsmaller ih =>
    have hpair : contents (last :: before :: other :: others) =
        ↑other.items + ↑before.items + contents (last :: others) := by
      simp only [contents_cons]
      abel
    refine (mergeRuns_ends hbelow patience hmembers hpair).bind fun result hresult => ?_
    have hcontents : contents (last :: result.1 :: others) =
        contents (last :: before :: other :: others) := by
      rw [← hresult]
      simp only [contents_cons]
      abel
    rw [← hcontents] at hmembers ⊢
    exact ih result.1 result.2 hmembers
  | case5 patience last before other others hsmaller ih =>
    have hpair : contents (last :: before :: other :: others) =
        ↑before.items + ↑last.items + contents (other :: others) := by
      simp only [contents_cons]
      abel
    refine (mergeRuns_ends hbelow patience hmembers hpair).bind fun result hresult => ?_
    rw [← hresult, ← contents_cons] at hmembers ⊢
    exact ih result.1 result.2 hmembers

/-- What is left of a list is sorted into the runs before it. -/
theorem sortFrom_ends (hbelow : Judges below member bad) (shortest size start patience : Nat)
    {runs : List (Run α)} {items : List α}
    (hmembers : ∀ item ∈ contents runs + ↑items, member item) :
    Ends (fun result : List α => (↑result : Multiset α) = contents runs + ↑items) bad
      (sortFrom below shortest size start patience runs items) := by
  fun_induction sortFrom below shortest size start patience runs items with
  | case1 start patience runs =>
    rw [Multiset.coe_nil, add_zero] at hmembers ⊢
    exact mergeAll_ends hbelow patience hmembers
  | case2 start patience runs first rest ih =>
    obtain ⟨hruns, hitems⟩ : (∀ item ∈ contents runs, member item) ∧
        ∀ item ∈ first :: rest, member item := by
      simpa only [Multiset.mem_add, or_imp, forall_and, Multiset.mem_coe] using hmembers
    obtain ⟨hfirst, hrest⟩ := List.forall_mem_cons.mp hitems
    refine (followers_answers hbelow hfirst hrest).bind fun ⟨down, count⟩ _ => ?_
    -- The items of the run that was found, in whichever direction it was read.
    let found := if down then (first :: rest.take count).reverse else first :: rest.take count
    let missing := shortest - found.length
    have hfound : (↑found : Multiset α) = {first} + ↑(rest.take count) := by
      cases down with
      | true => exact Multiset.coe_reverse _
      | false => rfl
    have hfoundMembers : ∀ item ∈ found, member item := by
      intro item hitem
      rw [← Multiset.mem_coe, hfound, Multiset.mem_add, Multiset.mem_singleton] at hitem
      rcases hitem with rfl | hitem
      · exact hfirst
      · exact hrest item (List.mem_of_mem_take hitem)
    have hfillers : ∀ item ∈ (rest.drop count).take missing, member item := fun item hitem =>
      hrest item (List.mem_of_mem_drop (List.mem_of_mem_take hitem))
    refine (insertAll_ends hbelow hfoundMembers hfillers).bind fun run hrun => ?_
    refine (addRun_ends hbelow size patience hruns ⟨start, run.length, run, 0⟩).bind
      fun ⟨runs', patience'⟩ hadded => ?_
    have hcontents : contents runs' + ↑((rest.drop count).drop missing) =
        contents runs + ↑(first :: rest) := by
      rw [hadded, hrun, hfound, coe_cons_eq_add first rest, ← coe_take_add_drop rest count,
        ← coe_take_add_drop (rest.drop count) missing]
      abel
    rw [← hcontents] at hmembers ⊢
    exact ih down count run runs' patience' hmembers

/-- A sort gives its items in some order, whatever the comparisons answer, and it fails only as a
comparison of two of its items fails. -/
theorem sort_ends (below : α → α → Except Fault Bool) (items : List α) :
    Ends (List.Perm · items)
      (fun fault => ∃ a ∈ items, ∃ b ∈ items, below a b = .error fault) (sort below items) := by
  have hbelow : Judges below (· ∈ items)
      (fun fault => ∃ a ∈ items, ∃ b ∈ items, below a b = .error fault) := by
    intro a b ha hb
    cases hanswer : below a b with
    | ok answer => exact .pure trivial
    | error fault => exact .throw ⟨a, ha, b, hb, hanswer⟩
  have hmembers : ∀ item ∈ contents ([] : List (Run α)) + ↑items, item ∈ items := by simp
  refine (sortFrom_ends hbelow (shortestRun items.length) items.length 0 worthwhile
    hmembers).imp fun result hresult => ?_
  simpa using hresult

/-- A stable sort in an order keeps the items of any kind as they are, if all items of the kind are
equal in the order. -/
theorem filter_mergeSort {le : α → α → Bool} (htrans : ∀ a b c, le a b → le b c → le a c)
    (htotal : ∀ a b, le a b || le b a) {kind : α → Bool} (hequal : ∀ a b, kind a → kind b → le a b)
    (items : List α) : (items.mergeSort le).filter kind = items.filter kind := by
  have hpairwise : (items.filter kind).Pairwise fun a b => le a b :=
    List.pairwise_of_forall_mem_list fun a ha b hb =>
      hequal a b (List.of_mem_filter ha) (List.of_mem_filter hb)
  have hkept := List.sublist_mergeSort htrans htotal hpairwise List.filter_sublist
  have hsublist : List.Sublist (items.filter kind) ((items.mergeSort le).filter kind) := by
    simpa only [List.filter_filter, Bool.and_self] using hkept.filter kind
  exact (hsublist.eq_of_length ((List.mergeSort_perm items le).filter kind).length_eq.symm).symm

end Polyphony.Sorting
