import Polyphony.Journal.Log

/-!
# Warnings of the log

The log of a journal, with each line beside the entry that it comes from. A name is warned of by the
first request for it that its roster does not know, and by no later one, however the journal is cut
into parts that are written one after another.
-/

namespace Polyphony

/-- The entries of a journal, each with the line that it leaves in the log. -/
def annotate (warned : List String) : List Entry → List (Entry × Option Line)
  | [] => []
  | entry :: entries => (entry, entry.line? warned) :: annotate (entry.warnedAfter warned) entries

/-- The line is a warning that comes from the players and names the one that is not known. -/
def Line.Warns (name : String) (line : Line) : Prop :=
  line.level = .warning ∧ line.source = .players ∧
    ("Unknown player " ++ Text.quoted name).toList <+: line.message.toList

instance (name : String) : DecidablePred (Line.Warns name) := fun line =>
  inferInstanceAs (Decidable (line.level = .warning ∧ line.source = .players ∧ _))

theorem Entry.warning_warns (roster : Roster) (name : String) :
    (warning roster name).Warns name := by
  refine ⟨rfl, rfl, ?_⟩
  simp only [warning, String.toList_append, List.append_assoc]
  exact List.prefix_append_right_inj _ |>.mpr (List.prefix_append _ _)

/-- The entry asks for a player that its roster does not know, and the log warns of the name. -/
def WarnsOf (name : String) (noted : Entry × Option Line) : Prop :=
  noted.1.unknown? = some name ∧ ∃ line ∈ noted.2, line.Warns name

instance (name : String) : DecidablePred (WarnsOf name) := fun noted =>
  inferInstanceAs (Decidable (noted.1.unknown? = some name ∧ ∃ line ∈ noted.2, line.Warns name))

/-- The log has the lines of the entries. -/
theorem writeLog_eq_annotate (warned : List String) (entries : List Entry) :
    (writeLog warned entries).1 = (annotate warned entries).filterMap Prod.snd := by
  induction entries generalizing warned with
  | nil => rfl
  | cons entry entries ih =>
    simp only [writeLog, annotate, ih]
    cases hline : entry.line? warned with
    | none => simp
    | some line => simp

/-- The log of a journal in two parts is that of the first and then that of the second. -/
theorem writeLog_append (warned : List String) (first second : List Entry) :
    writeLog warned (first ++ second) =
      ((writeLog warned first).1 ++ (writeLog (writeLog warned first).2 second).1,
        (writeLog (writeLog warned first).2 second).2) := by
  induction first generalizing warned with
  | nil => rfl
  | cons entry first ih => simp only [List.cons_append, writeLog, ih, List.append_assoc]

theorem annotate_append (warned : List String) (first second : List Entry) :
    annotate warned (first ++ second) =
      annotate warned first ++ annotate (writeLog warned first).2 second := by
  induction first generalizing warned with
  | nil => rfl
  | cons entry first ih => simp only [List.cons_append, annotate, writeLog, ih]

theorem Entry.mem_warnedAfter_iff {entry : Entry} {warned : List String} {name : String} :
    name ∈ entry.warnedAfter warned ↔ name ∈ warned ∨ entry.unknown? = some name := by
  unfold warnedAfter
  cases entry.unknown? with
  | none => simp
  | some unknown =>
    by_cases hknown : unknown ∈ warned
    · simp only [List.contains_iff_mem, hknown, if_true, Option.some.injEq]
      exact ⟨.inl, fun h => h.elim id fun h => h ▸ hknown⟩
    · simp only [List.contains_iff_mem, hknown, if_false, List.mem_cons, Option.some.injEq]
      rw [or_comm, eq_comm]

/-- By the end of a journal the log has warned of the names that it had warned of before and of
those that were asked for and not known. -/
theorem mem_writeLog_iff {warned : List String} {entries : List Entry} {name : String} :
    name ∈ (writeLog warned entries).2 ↔
      name ∈ warned ∨ ∃ entry ∈ entries, entry.unknown? = some name := by
  induction entries generalizing warned with
  | nil => simp [writeLog]
  | cons entry entries ih =>
    simp only [writeLog, ih, Entry.mem_warnedAfter_iff, List.mem_cons, exists_eq_or_imp, or_assoc]

/-- A request for a name that is not known leaves a warning unless there was one before. -/
theorem Entry.line?_of_unknown {entry : Entry} {name : String}
    (hunknown : entry.unknown? = some name) (warned : List String) :
    ∃ roster, entry.line? warned = if name ∈ warned then none else some (warning roster name) := by
  cases entry with
  | request roster asked =>
    obtain ⟨hknown, rfl⟩ : roster.contains asked = false ∧ asked = name := by
      simpa [unknown?] using hunknown
    exact ⟨roster, by simp [line?, hknown]⟩
  | _ => simp [unknown?] at hunknown

/-- An entry is warned of when it asks for a name that is not known and was not warned of before. -/
theorem Entry.warnsOf_line?_iff {entry : Entry} {warned : List String} {name : String} :
    WarnsOf name (entry, entry.line? warned) ↔ entry.unknown? = some name ∧ name ∉ warned := by
  refine and_congr_right fun hunknown => ?_
  obtain ⟨roster, hline⟩ := line?_of_unknown hunknown warned
  rw [hline]
  by_cases hwarned : name ∈ warned
  · simp [hwarned]
  · simp [hwarned, warning_warns]

/-- The log has warned of a name when it had before, or when an entry warned of it. -/
theorem mem_writeLog_iff_warnsOf {warned : List String} {entries : List Entry} {name : String} :
    name ∈ (writeLog warned entries).2 ↔
      name ∈ warned ∨ ∃ noted ∈ annotate warned entries, WarnsOf name noted := by
  induction entries generalizing warned with
  | nil => simp [writeLog, annotate]
  | cons entry entries ih =>
    simp only [writeLog, annotate, ih, Entry.mem_warnedAfter_iff, List.mem_cons, exists_eq_or_imp,
      Entry.warnsOf_line?_iff]
    by_cases hwarned : name ∈ warned <;> simp [hwarned]

/-- The log does not warn of a name again. -/
theorem not_warnsOf_of_mem {warned : List String} {entries : List Entry} {name : String}
    (hwarned : name ∈ warned) : ∀ noted ∈ annotate warned entries, ¬ WarnsOf name noted := by
  induction entries generalizing warned with
  | nil => exact List.forall_mem_nil _
  | cons entry entries ih =>
    refine List.forall_mem_cons.mpr ⟨fun hwarns => ?_, ?_⟩
    · exact (Entry.warnsOf_line?_iff.mp hwarns).2 hwarned
    · exact ih (Entry.mem_warnedAfter_iff.mpr (.inl hwarned))

/-- The log warns of each name at most once. -/
theorem countP_warnsOf_le_one (warned : List String) (entries : List Entry) (name : String) :
    (annotate warned entries).countP (WarnsOf name) ≤ 1 := by
  induction entries generalizing warned with
  | nil => exact Nat.zero_le 1
  | cons entry entries ih =>
    rw [annotate, List.countP_cons]
    split
    case isTrue hwarns =>
      have hunknown : entry.unknown? = some name := (of_decide_eq_true hwarns).1
      have hwarned : name ∈ entry.warnedAfter warned :=
        Entry.mem_warnedAfter_iff.mpr (.inr hunknown)
      have hnone : (annotate (entry.warnedAfter warned) entries).countP (WarnsOf name) = 0 :=
        List.countP_eq_zero.mpr fun noted hnoted hwarns =>
          not_warnsOf_of_mem hwarned noted hnoted (of_decide_eq_true hwarns)
      omega
    case isFalse => exact ih _

/-- Within a journal, an entry leaves the line that it leaves after the entries before it. -/
theorem line_of_annotate_eq_append {warned : List String} {entries : List Entry}
    {before after : List (Entry × Option Line)} {entry : Entry} {line : Option Line}
    (hsplit : annotate warned entries = before ++ (entry, line) :: after) :
    ∃ earlier, before = annotate warned earlier ∧ entry ∈ entries ∧
      line = entry.line? (writeLog warned earlier).2 := by
  induction before generalizing warned entries with
  | nil =>
    cases entries with
    | nil => simp [annotate] at hsplit
    | cons first rest =>
      simp only [annotate, List.nil_append, List.cons.injEq, Prod.mk.injEq] at hsplit
      obtain ⟨⟨rfl, rfl⟩, _⟩ := hsplit
      exact ⟨[], rfl, List.mem_cons_self, rfl⟩
  | cons noted before ih =>
    cases entries with
    | nil => simp [annotate] at hsplit
    | cons first rest =>
      simp only [annotate, List.cons_append, List.cons.injEq] at hsplit
      obtain ⟨rfl, hrest⟩ := hsplit
      obtain ⟨earlier, rfl, hentry, rfl⟩ := ih hrest
      exact ⟨first :: earlier, rfl, List.mem_cons_of_mem _ hentry, rfl⟩

end Polyphony
