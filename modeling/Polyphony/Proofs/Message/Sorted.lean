import Mathlib.Data.List.Nodup
import Polyphony.Message
import Polyphony.Proofs.Binary64.Place
import Polyphony.Proofs.Sorting.Rearrangement

/-!
# The order of sorted messages

Where every moment is a number, messages are sorted by a single integer: the place of the moment
among the doubles, and at one moment the switch, off before on. The sort keeps all messages and the
order of those with one rank.
-/

namespace Polyphony.Message

/-- The rank of a message in the order: its moment and then its switch. -/
def rank (message : Message) : Int :=
  2 * message.seconds.place + if message.switch = .on then 1 else 0

theorem rank_on {message : Message} (hon : message.switch = .on) :
    message.rank = 2 * message.seconds.place + 1 := by
  rw [rank, if_pos hon]

theorem rank_off {message : Message} (hoff : message.switch = .off) :
    message.rank = 2 * message.seconds.place := by
  rw [rank, hoff, if_neg (by decide), Int.add_zero]

/-- A message comes before another one when it has the lower rank. -/
theorem before_eq {a b : Message} (ha : a.seconds.isNaN = false) (hb : b.seconds.isNaN = false) :
    before a b = decide (a.rank < b.rank) := by
  obtain ⟨s, switch, _, _, _⟩ := a
  obtain ⟨t, switch', _, _, _⟩ := b
  simp only [before, Binary64.eq, Binary64.lt, ha, hb, rank]
  rcases lt_trichotomy s.place t.place with hlt | heq | hgt
  · cases switch <;> cases switch' <;> simp [hlt, hlt.ne] <;> omega
  · cases switch <;> cases switch' <;> simp [heq]
  · cases switch <;> cases switch' <;> simp [hgt.not_gt, hgt.ne'] <;> omega

/-- One message may stand before the other: its rank is not higher. -/
def inOrder (a b : Message) : Bool := a.rank ≤ b.rank

theorem inOrder_iff {a b : Message} : inOrder a b ↔ a.rank ≤ b.rank := decide_eq_true_iff

theorem inOrder_trans (a b c : Message) (hab : inOrder a b) (hbc : inOrder b c) : inOrder a c :=
  inOrder_iff.mpr ((inOrder_iff.mp hab).trans (inOrder_iff.mp hbc))

theorem inOrder_total (a b : Message) : inOrder a b || inOrder b a := by
  simpa only [Bool.or_eq_true, inOrder_iff] using le_total a.rank b.rank

/-- The messages of one moment and one switch, in their order. -/
def simultaneous (moment : Binary64) (switch : Switch) (messages : List Message) : List Message :=
  messages.filter fun message => message.seconds.eq moment && message.switch = switch

/-- The messages of one moment and one switch have one rank. -/
theorem rank_eq_of_simultaneous {moment : Binary64} {switch : Switch} {a b : Message}
    (ha : (a.seconds.eq moment && a.switch = switch))
    (hb : (b.seconds.eq moment && b.switch = switch)) : a.rank = b.rank := by
  simp only [Bool.and_eq_true, Binary64.eq_iff, decide_eq_true_eq] at ha hb
  obtain ⟨⟨_, _, hplace⟩, hswitch⟩ := ha
  obtain ⟨⟨_, _, hplace'⟩, hswitch'⟩ := hb
  rw [rank, rank, hplace, hplace', hswitch, hswitch']

/-- The first list is the stable sort of the second one by seconds, with messages that switch off
before those that switch on at equal seconds. -/
structure StableSort (ordered messages : List Message) : Prop where
  /-- The messages are the same. -/
  perm : ordered.Perm messages
  /-- Each message is earlier than those behind it. At one moment, none that switches off is behind
  one that switches on. -/
  pairwise : ordered.Pairwise fun a b =>
    a.seconds.lt b.seconds ∨ a.seconds.eq b.seconds ∧ (a.switch = .off ∨ b.switch = .on)
  /-- The messages of one moment and one switch keep their order. -/
  stable : ∀ moment switch, simultaneous moment switch ordered = simultaneous moment switch messages

section Sorted

variable {messages : List Message} (hnumbers : ∀ message ∈ messages, message.seconds.isNaN = false)
include hnumbers

/-- Messages at moments that are numbers are sorted by their ranks. -/
theorem sorted_eq : sorted messages = messages.mergeSort inOrder := by
  have hnone : (messages.any fun message => message.seconds.isNaN) = false :=
    List.any_eq_false.mpr fun message hmessage => by simp [hnumbers message hmessage]
  have hmembers : ∀ a ∈ messages, ∀ b ∈ messages, (!before b a) = inOrder (id a) (id b) := by
    intro a ha b hb
    rw [before_eq (hnumbers b hb) (hnumbers a ha), ← decide_not, inOrder]
    exact decide_eq_decide.mpr not_lt
  have hkeyed := List.map_mergeSort (r := fun a b => !before b a) hmembers
  rw [sorted, hnone, if_neg Bool.false_ne_true]
  rwa [List.map_id, List.map_id] at hkeyed

theorem sorted_perm : (sorted messages).Perm messages := by
  rw [sorted_eq hnumbers]
  exact List.mergeSort_perm _ _

/-- Sorted messages are in the order of their ranks. -/
theorem pairwise_sorted : (sorted messages).Pairwise fun a b => a.rank ≤ b.rank := by
  rw [sorted_eq hnumbers]
  exact (List.pairwise_mergeSort inOrder_trans inOrder_total messages).imp inOrder_iff.mp

/-- Two messages that stand in the order of their ranks keep their order. -/
theorem pair_sublist_sorted {a b : Message} (hrank : a.rank ≤ b.rank)
    (hpair : List.Sublist [a, b] messages) : List.Sublist [a, b] (sorted messages) := by
  rw [sorted_eq hnumbers]
  exact List.pair_sublist_mergeSort inOrder_trans inOrder_total (inOrder_iff.mpr hrank) hpair

/-- Of two messages with different ranks, the lower one comes first. -/
theorem pair_sublist_sorted_of_lt {a b : Message} (hrank : a.rank < b.rank) (ha : a ∈ messages)
    (hb : b ∈ messages) : List.Sublist [a, b] (sorted messages) := by
  have hperm := sorted_perm hnumbers
  obtain ⟨front, rest, hsplit⟩ := List.append_of_mem (hperm.mem_iff.mpr ha)
  have hmem : b ∈ front ++ a :: rest := hsplit ▸ hperm.mem_iff.mpr hb
  have hpairwise := hsplit ▸ pairwise_sorted hnumbers
  rw [hsplit]
  rcases List.mem_append.mp hmem with hfront | hrest
  · have hle := hpairwise.rel_of_mem_append hfront List.mem_cons_self
    exact absurd hrank hle.not_gt
  · rcases List.mem_cons.mp hrest with rfl | hrest
    · exact absurd hrank (lt_irrefl _)
    · exact ((List.singleton_sublist.mpr hrest).cons_cons a).trans (List.sublist_append_right _ _)

/-- Messages in the order of different ranks are the sorted ones of any messages that they are. -/
theorem sorted_eq_of_perm {ordered : List Message} (hperm : ordered.Perm messages)
    (hordered : ordered.Pairwise fun a b => a.rank < b.rank) : sorted messages = ordered := by
  have hkept := (sorted_perm hnumbers).trans hperm.symm
  have hdistinct : (ordered.map rank).Nodup := List.pairwise_map.mpr (hordered.imp ne_of_lt)
  have hle : ordered.Pairwise fun a b => a.rank ≤ b.rank := hordered.imp le_of_lt
  refine List.Perm.eq_of_pairwise ?_ (pairwise_sorted hnumbers) hle hkept
  intro a b ha hb hab hba
  exact List.inj_on_of_nodup_map hdistinct (hkept.mem_iff.mp ha) hb (hab.antisymm hba)

/-- Sorting is stable. -/
theorem sorted_stableSort : StableSort (sorted messages) messages := by
  refine ⟨sorted_perm hnumbers, ?_, fun moment switch => ?_⟩
  · refine (pairwise_sorted hnumbers).imp_of_mem fun {a b} ha hb hrank => ?_
    have haNumber := hnumbers a ((sorted_perm hnumbers).mem_iff.mp ha)
    have hbNumber := hnumbers b ((sorted_perm hnumbers).mem_iff.mp hb)
    rcases lt_trichotomy a.seconds.place b.seconds.place with hlt | heq | hgt
    · exact .inl (Binary64.lt_iff.mpr ⟨haNumber, hbNumber, hlt⟩)
    · refine .inr ⟨Binary64.eq_iff.mpr ⟨haNumber, hbNumber, heq⟩, ?_⟩
      cases hoff : a.switch with
      | off => exact .inl rfl
      | on =>
        cases hon : b.switch with
        | on => exact .inr rfl
        | off =>
          rw [rank_on hoff, rank_off hon] at hrank
          omega
    · unfold rank at hrank
      split at hrank <;> split at hrank <;> omega
  · rw [sorted_eq hnumbers]
    refine Sorting.filter_mergeSort inOrder_trans inOrder_total (fun a b ha hb => ?_) messages
    exact inOrder_iff.mpr (rank_eq_of_simultaneous ha hb).le

end Sorted

end Polyphony.Message
