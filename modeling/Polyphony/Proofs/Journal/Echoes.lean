import Polyphony.Proofs.Journal.Success
import Polyphony.Session

/-!
# Computations that echo others

The log keeps silent about calls to players. One computation echoes another when their journals
differ in such calls only and its results are those of the other, changed in one way. So the two
write the same log, and sequences echo each other step by step.
-/

namespace Polyphony

namespace Entry

/-- The entry matters to the log: it is no call to a player. -/
def logged : Entry → Bool
  | note .. => false
  | phrase .. => false
  | _ => true

/-- A call to a player leaves no line, and no name is warned of. -/
theorem silent_of_not_logged {entry : Entry} (hcall : ¬ entry.logged) (warned : List String) :
    entry.line? warned = none ∧ entry.warnedAfter warned = warned := by
  cases entry with
  | note context length payload => exact ⟨rfl, rfl⟩
  | phrase context attributes => exact ⟨rfl, rfl⟩
  | _ => exact absurd rfl hcall

end Entry

/-- Calls to players may be left out of the journal that a log is written from. -/
theorem writeLog_filter_logged (warned : List String) (entries : List Entry) :
    writeLog warned (entries.filter Entry.logged) = writeLog warned entries := by
  induction entries generalizing warned with
  | nil => rfl
  | cons entry entries ih =>
    by_cases hlogged : entry.logged
    · rw [List.filter_cons_of_pos hlogged, writeLog, writeLog, ih]
    · obtain ⟨hline, hwarned⟩ := Entry.silent_of_not_logged hlogged warned
      rw [List.filter_cons_of_neg hlogged, ih, writeLog, hline, hwarned]
      rfl

variable {α β γ δ : Type}

/-- The second computation ends like the first, up to a change of its result, and has the same
journal up to calls to players. -/
structure Echoes (f : α → β) (x : Journaled α) (y : Journaled β) : Prop where
  /-- The result is the changed one, or the fault is the same. -/
  result : y.result = f <$> x.result
  /-- Without calls to players the journals are the same. -/
  journal : y.entries.filter Entry.logged = x.entries.filter Entry.logged

namespace Echoes

variable {f : α → β} {x : Journaled α} {y : Journaled β}

theorem pure {a : α} {b : β} (hb : b = f a) : Echoes f (Pure.pure a) (Pure.pure b) :=
  ⟨congrArg Except.ok hb, rfl⟩

theorem throw (f : α → β) (fault : Fault) :
    Echoes f (MonadExcept.throw fault) (MonadExcept.throw fault) := ⟨rfl, rfl⟩

theorem lift {outcome : Except Fault α} {outcome' : Except Fault β}
    (heq : outcome' = f <$> outcome) : Echoes f (liftM outcome) (liftM outcome') := ⟨heq, rfl⟩

/-- Calls to players echo each other. -/
theorem enter {call call' : Entry} (hcall : ¬ call.logged) (hcall' : ¬ call'.logged) :
    Echoes id (Recorded.enter call) (Recorded.enter call') := by
  refine ⟨rfl, ?_⟩
  rw [Recorded.entries_enter, Recorded.entries_enter, List.filter_cons_of_neg hcall,
    List.filter_cons_of_neg hcall']

/-- A changed computation echoes the computation. -/
theorem map (f : α → β) (x : Journaled α) : Echoes f x (f <$> x) := by
  obtain ⟨entries, result⟩ := x
  cases result with
  | error fault => exact ⟨rfl, rfl⟩
  | ok a => exact ⟨rfl, congrArg (List.filter Entry.logged) (List.append_nil entries)⟩

/-- A sequence echoes another when its parts echo the parts of the other, the second ones on each
result of the first. -/
theorem bind_of {g : γ → δ} {k : α → Journaled γ} {k' : β → Journaled δ} (hfirst : Echoes f x y)
    (hnext : ∀ a, x.result = .ok a → Echoes g (k a) (k' (f a))) :
    Echoes g (x >>= k) (y >>= k') := by
  obtain ⟨entries, result⟩ := x
  obtain ⟨entries', result'⟩ := y
  obtain ⟨hresult, hjournal⟩ := hfirst
  obtain rfl : result' = f <$> result := hresult
  cases result with
  | error fault => exact ⟨rfl, hjournal⟩ -- The second parts are left out on both sides.
  | ok a =>
    have hsecond := hnext a rfl
    refine ⟨hsecond.result, ?_⟩
    change List.filter Entry.logged (entries' ++ (k' (f a)).entries) =
      List.filter Entry.logged (entries ++ (k a).entries)
    rw [List.filter_append, List.filter_append, hsecond.journal]
    exact congrArg (· ++ _) hjournal

/-- A sequence echoes another when its parts echo the parts of the other. -/
theorem bind {g : γ → δ} {k : α → Journaled γ} {k' : β → Journaled δ} (hfirst : Echoes f x y)
    (hnext : ∀ a, Echoes g (k a) (k' (f a))) : Echoes g (x >>= k) (y >>= k') :=
  hfirst.bind_of fun a _ => hnext a

/-- An echo writes the log of the other computation. -/
theorem writeLog_eq (hechoes : Echoes f x y) (warned : List String) :
    writeLog warned y.entries = writeLog warned x.entries := by
  rw [← writeLog_filter_logged, hechoes.journal, writeLog_filter_logged]

/-- A session reports an echo like the other computation, but for the change of the result. -/
theorem report_eq_change {f : α → α} {x y : Journaled α} (hechoes : Echoes f x y)
    (session : Session) :
    session.report y = { session.report x with result := f <$> (session.report x).result } := by
  rw [Session.report, Session.report, hechoes.writeLog_eq, hechoes.result]

/-- Where the result is the same too, a session cannot tell an echo from the other computation. -/
theorem report_eq {x y : Journaled α} (hechoes : Echoes id x y) (session : Session) :
    session.report y = session.report x := by
  rw [Session.report, Session.report, hechoes.writeLog_eq, hechoes.result, id_map]

end Echoes

end Polyphony
