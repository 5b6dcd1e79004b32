import Polyphony.Proofs.Journal.Log
import Polyphony.Proofs.Performance.Derived
import Polyphony.Proofs.Performance.Machine

/-!
# What performances ask of a roster

A performance asks one roster for players, and nothing else about the roster matters to it: rosters
that answer every name alike have it end alike. What it enters into the journal are the calls of a
performance, of which only requests can leave a warning.
-/

namespace Polyphony

namespace Recorded

variable {ε α β : Type}

/-- All entries of a computation are of a kind. -/
def Enters (kind : ε → Prop) (x : Recorded ε α) : Prop := ∀ entry ∈ x.entries, kind entry

namespace Enters

variable {kind : ε → Prop}

theorem pure (a : α) : Enters kind (Pure.pure a : Recorded ε α) := List.forall_mem_nil _

theorem throw (fault : Fault) : Enters kind (MonadExcept.throw fault : Recorded ε α) :=
  List.forall_mem_nil _

theorem lift (outcome : Except Fault α) : Enters kind (liftM outcome : Recorded ε α) :=
  List.forall_mem_nil _

theorem enter {entry : ε} (hentry : kind entry) : Enters kind (Recorded.enter entry) :=
  List.forall_mem_singleton.mpr hentry

/-- The entries of a sequence are those of its parts. -/
theorem bind {x : Recorded ε α} {f : α → Recorded ε β} (hx : Enters kind x)
    (hf : ∀ a, Enters kind (f a)) : Enters kind (x >>= f) := by
  obtain ⟨entries, result⟩ := x
  cases result with
  | error fault => exact hx
  | ok a => exact List.forall_mem_append.mpr ⟨hx, hf a⟩

end Enters

end Recorded

open Recorded

/-- The entry is one that performances with a roster make. -/
def Entry.Performing (roster : Option Roster) : Entry → Prop
  | request asked _ => roster = some asked
  | note .. | phrase .. | ignored _ | withoutRoster _ | switch .. => True
  | overrides _ | missingFile _ | told _ => False

/-- A directive asks the roster of the performance, or nobody. -/
theorem Context.directed_enters (roster : Option Roster) (context : Context)
    (directive : String) :
    Enters (Entry.Performing roster) (context.directed roster directive) := by
  unfold directed
  split
  · have hignored : Entry.Performing roster (.ignored directive) := trivial
    exact (Enters.enter hignored).bind fun _ => .pure _
  · rename_i name _
    split
    · have hwithout : Entry.Performing none (.withoutRoster name) := trivial
      exact (Enters.enter hwithout).bind fun _ => .pure _
    · rename_i roster
      have hswitch : Entry.Performing (some roster) (.switch name context.time) := trivial
      have hrequest : Entry.Performing (some roster) (.request roster name) := rfl
      exact (Enters.enter hswitch).bind fun _ => (Enters.enter hrequest).bind fun _ => .pure _

theorem Context.under_enters (roster : Option Roster) (context : Context) (control : Control) :
    Enters (Entry.Performing roster) (context.under roster control) := by
  cases control with
  | custom directive => exact directed_enters roster context directive
  | tempo ratio => exact .lift _
  | stray number => exact .throw _
  | _ => exact .pure _

theorem Outcome.ofPrimitive_enters (roster : Option Roster) (context : Context)
    (primitive : Primitive Payload) :
    Enters (Entry.Performing roster) (ofPrimitive context primitive) := by
  refine (Enters.lift _).bind fun elapsed => ?_
  cases primitive with
  | note length payload =>
    exact .bind (.enter trivial) fun _ => .bind (.lift _) fun event => .pure _
  | rest length => exact .pure _

/-- A performance makes entries of performances only, and asks its own roster. -/
theorem Music.outcome_enters (roster : Option Roster) (context : Context)
    (piece : Music Payload) :
    Enters (Entry.Performing roster) (piece.outcome roster context) := by
  induction piece generalizing context with
  | prim primitive => exact Outcome.ofPrimitive_enters roster context primitive
  | seq left right ihleft ihright =>
    exact (ihleft context).bind fun l => (Enters.lift _).bind fun later =>
      (ihright later).bind fun r => .lift _
  | par left right ihleft ihright =>
    exact (ihleft context).bind fun l => (ihright context).bind fun r => .lift _
  | modify control body ih =>
    obtain ⟨attributes, rfl⟩ | hphrase := control.phrase_or_other
    · refine .bind (.enter trivial) fun _ => ?_
      cases roster with
      | none => exact .pure _
      | some roster => exact (ih context).bind fun outcome => (Enters.lift _).bind fun _ => .pure _
    · rw [outcome_modify roster context hphrase]
      exact (Context.under_enters roster context control).bind fun inner => ih inner
  | stray number => exact .throw _

/-- Of the lines of a performance only warnings of names that are not known are more than
details. -/
theorem Entry.Performing.level_eq_debug {roster : Option Roster} {entry : Entry}
    (hperforming : entry.Performing roster) {warned : List String}
    (hwarned : ∀ name, entry.unknown? = some name → name ∈ warned) {line : Line}
    (hline : entry.line? warned = some line) : line.level = .debug := by
  cases entry with
  | request asked name =>
    cases hknown : asked.contains name with
    | true => simp [line?, hknown] at hline
    | false =>
      have hname : name ∈ warned := hwarned name (by simp [unknown?, hknown])
      simp [line?, hname] at hline
  | note _ _ _ | phrase _ _ => simp [line?] at hline
  | ignored directive | withoutRoster name | switch name time =>
    obtain rfl := Option.some.inj hline
    rfl
  | overrides _ | missingFile _ | told _ => exact hperforming.elim

/-- A performance that asks only for names that are known or that the log has warned of leaves
nothing but details in the log. -/
theorem level_eq_debug_of_mem_writeLog {roster : Option Roster} {entries : List Entry}
    (hperforming : ∀ entry ∈ entries, entry.Performing roster) {warned : List String}
    (hwarned : ∀ entry ∈ entries, ∀ name, entry.unknown? = some name → name ∈ warned) :
    ∀ line ∈ (writeLog warned entries).1, line.level = .debug := by
  induction entries generalizing warned with
  | nil => exact List.forall_mem_nil _
  | cons entry entries ih =>
    obtain ⟨hfirst, hrest⟩ := List.forall_mem_cons.mp hperforming
    obtain ⟨hfirstWarned, hrestWarned⟩ := List.forall_mem_cons.mp hwarned
    refine List.forall_mem_append.mpr
      ⟨fun line hline => ?_, ih hrest fun later hlater name hname => ?_⟩
    · exact hfirst.level_eq_debug hfirstWarned (Option.mem_toList.mp hline)
    · exact Entry.mem_warnedAfter_iff.mpr (.inl (hrestWarned later hlater name hname))

section Answers

variable {roster roster' : Roster}

/-- A directive for a player switches to the one that the roster answers. -/
theorem Context.under_directive_result {directive name : String}
    (hname : Performance.directedPlayer? directive = some name) (context : Context) :
    (context.under (some roster) (.custom directive)).result =
      .ok (context.withPlayer (roster.find name)) := by
  simp only [under, directed_result, summoned, hname]

/-- The context under a control depends on what the roster answers. -/
theorem Context.under_result_eq (hfind : ∀ name, roster.find name = roster'.find name)
    (context : Context) (control : Control) :
    (context.under (some roster) control).result =
      (context.under (some roster') control).result := by
  cases control with
  | custom directive =>
    change (context.directed (some roster) directive).result =
      (context.directed (some roster') directive).result
    rw [directed_result, directed_result]
    unfold summoned
    cases Performance.directedPlayer? directive with
    | none => rfl
    | some name => simp only [hfind]
  | _ => rfl

/-- Performances with rosters that answer every name alike end alike. -/
theorem Music.outcome_result_eq (hfind : ∀ name, roster.find name = roster'.find name)
    (context : Context) (piece : Music Payload) :
    (piece.outcome (some roster) context).result =
      (piece.outcome (some roster') context).result := by
  induction piece generalizing context with
  | prim primitive => rfl
  | seq left right ihleft ihright =>
    simp only [outcome, result_bind, result_lift, ihleft, ihright]
  | par left right ihleft ihright =>
    simp only [outcome, result_bind, result_lift, ihleft, ihright]
  | modify control body ih =>
    obtain ⟨attributes, rfl⟩ | hphrase := control.phrase_or_other
    · simp only [outcome, Outcome.phrase, result_bind, result_lift, ih]
    · simp only [outcome_modify _ _ hphrase, result_bind, Context.under_result_eq hfind, ih]
  | stray number => rfl

end Answers

end Polyphony
