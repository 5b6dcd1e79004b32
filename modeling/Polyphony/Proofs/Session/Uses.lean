import Polyphony.Proofs.Performance.Requests
import Polyphony.Proofs.Session.Roster
import Polyphony.Session

/-!
# Uses of a session

A session is used by registering players, finding them and performing pieces, in any order. What a
roster answers is settled by its registrations alone. What the log warns of is settled by the names
that were asked for, whether a piece or somebody else asked, and every name is warned of once.
-/

namespace Polyphony.Session

/-- What can be done with the roster of a session. -/
inductive Use where
  /-- A player is registered. -/
  | register (player : Player)
  /-- A player is looked up. -/
  | find (name : String)
  /-- A piece is performed. -/
  | perform (context : Context) (piece : Music Payload)

/-- The player that a use registers. -/
def Use.registered? : Use → Option Player
  | register player => some player
  | _ => none

variable (session : Session)

/-- The session after a use. -/
def after : Use → Session
  | .register player =>
    match session.registerPlayer player with
    | .ok later => later
    | .error _ => session
  | .find name => (session.find name).session
  | .perform context piece => (session.perform context piece).session

/-- The lines that a use leaves in the log. -/
def log : Use → List Line
  | .register _ => []
  | .find name => (session.find name).log
  | .perform context piece => (session.perform context piece).log

/-- The entries that a use makes in the journal. -/
def entries : Use → List Entry
  | .register _ => []
  | .find name => (session.roster.map fun roster => Entry.request roster name).toList
  | .perform context piece => (piece.perform session.roster context).entries

/-- The entries that a use makes, each with the line that it leaves. -/
def trace (use : Use) : List (Entry × Option Line) := annotate session.warned (session.entries use)

/-- The session after uses. -/
def afterAll (uses : List Use) : Session := uses.foldl after session

/-- The entries that uses make, each with the line that it leaves. -/
def traceAll (session : Session) : List Use → List (Entry × Option Line)
  | [] => []
  | use :: uses => session.trace use ++ (session.after use).traceAll uses

/-- The entries that uses make in the journal. -/
def entriesAll (session : Session) : List Use → List Entry
  | [] => []
  | use :: uses => session.entries use ++ (session.after use).entriesAll uses

/-- The roster has a default player, and finds what was registered last. -/
def Lists (substitute : Player) (registered : List Player) : Prop :=
  ∃ roster, session.roster = some roster ∧ roster.substitute = substitute ∧
    ∀ name, roster.registered? name = Roster.lastNamed? registered name

variable {session}

/-- Only registrations change the roster, and only other uses make entries, of which the log is
written. -/
theorem after_eq (use : Use) :
    session.after use = {
      session with
      roster := session.roster.map fun roster => use.registered?.elim roster roster.register
      warned := (writeLog session.warned (session.entries use)).2 } ∧
    session.log use = (writeLog session.warned (session.entries use)).1 := by
  obtain ⟨modes, roster, warned⟩ := session
  cases use with
  | register player => cases roster <;> exact ⟨rfl, rfl⟩
  | find name => cases roster <;> exact ⟨rfl, rfl⟩
  | perform context piece => cases roster <;> exact ⟨rfl, rfl⟩

theorem after_roster (use : Use) : (session.after use).roster =
    session.roster.map fun roster => use.registered?.elim roster roster.register := by
  rw [(after_eq use).1]

theorem after_warned (use : Use) :
    (session.after use).warned = (writeLog session.warned (session.entries use)).2 := by
  rw [(after_eq use).1]

/-- The log of a use has the lines of its entries. -/
theorem log_eq_trace (use : Use) : session.log use = (session.trace use).filterMap Prod.snd := by
  rw [(after_eq use).2, writeLog_eq_annotate]
  rfl

/-- Uses that register nobody leave the roster as it is. -/
theorem afterAll_roster_eq {uses : List Use} (hnone : ∀ use ∈ uses, use.registered? = none) :
    (session.afterAll uses).roster = session.roster := by
  induction uses generalizing session with
  | nil => rfl
  | cons use uses ih =>
    obtain ⟨huse, hrest⟩ := List.forall_mem_cons.mp hnone
    calc (session.afterAll (use :: uses)).roster
        = (session.after use).roster := ih hrest
      _ = session.roster := by simp [after_roster, huse]

/-- The roster after uses is that of all registrations in order. -/
theorem afterAll_roster {substitute : Player} {known : List Player}
    (hroster : session.roster = some (.ofPlayers substitute known)) (uses : List Use) :
    (session.afterAll uses).roster =
      some (.ofPlayers substitute (known ++ uses.filterMap Use.registered?)) := by
  -- The players that are known grow with each registration, so they are generalized as well.
  induction uses generalizing session known with
  | nil =>
    rw [List.filterMap_nil, List.append_nil]
    exact hroster
  | cons use uses ih =>
    have hafter : (session.after use).roster =
        some (.ofPlayers substitute (known ++ use.registered?.toList)) := by
      rw [after_roster, hroster, Roster.ofPlayers_append]
      cases use.registered? <;> rfl
    have hrest := ih hafter
    rw [List.append_assoc] at hrest
    rw [List.filterMap_cons]
    cases hregistered : use.registered? <;> simpa [afterAll, hregistered] using hrest

/-- The names that were warned of after uses are those of the log of all their entries. -/
theorem afterAll_warned (session : Session) (uses : List Use) :
    (session.afterAll uses).warned = (writeLog session.warned (session.entriesAll uses)).2 := by
  induction uses generalizing session with
  | nil => rfl
  | cons use uses ih =>
    rw [entriesAll, writeLog_append, ← after_warned]
    exact ih (session.after use)

theorem traceAll_eq_annotate (session : Session) (uses : List Use) :
    session.traceAll uses = annotate session.warned (session.entriesAll uses) := by
  induction uses generalizing session with
  | nil => rfl
  | cons use uses ih => rw [traceAll, entriesAll, annotate_append, ih, after_warned, trace]

theorem traceAll_append (session : Session) (uses more : List Use) :
    session.traceAll (uses ++ more) =
      session.traceAll uses ++ (session.afterAll uses).traceAll more := by
  induction uses generalizing session with
  | nil => rfl
  | cons use uses ih =>
    rw [List.cons_append, traceAll, traceAll, ih, List.append_assoc]
    rfl

/-- A name was warned of when it had been before or when an entry of the uses warned of it. -/
theorem mem_afterAll_warned_iff {uses : List Use} {name : String} :
    name ∈ (session.afterAll uses).warned ↔
      name ∈ session.warned ∨ ∃ noted ∈ session.traceAll uses, WarnsOf name noted := by
  rw [afterAll_warned, traceAll_eq_annotate, mem_writeLog_iff_warnsOf]

/-- After uses from the start, the names that were warned of are those that the uses warned of. -/
theorem not_mem_warned_of_start_iff {roster : Option Roster} {uses : List Use} {name : String} :
    name ∉ ((start roster).afterAll uses).warned ↔
      ∀ noted ∈ (start roster).traceAll uses, ¬ WarnsOf name noted := by
  rw [mem_afterAll_warned_iff, show (start roster).warned = [] from rfl]
  simp only [List.not_mem_nil, false_or, not_exists, not_and]

/-- Requests are made to the roster of the session. -/
theorem roster_of_mem_entries {use : Use} {roster : Roster} {name : String}
    (hrequest : Entry.request roster name ∈ session.entries use) :
    session.roster = some roster := by
  cases use with
  | register player => simp [entries] at hrequest
  | find asked =>
    cases hroster : session.roster with
    | none => simp [entries, hroster] at hrequest
    | some present =>
      obtain ⟨rfl, _⟩ : roster = present ∧ name = asked := by
        simpa [entries, hroster] using hrequest
      rfl
  | perform context piece =>
    rw [entries, Music.perform_eq_outcome] at hrequest
    exact Music.outcome_enters session.roster context piece _ hrequest

/-- A lookup gives what the roster answers. -/
theorem find_result {roster : Roster} (hroster : session.roster = some roster) (name : String) :
    (session.find name).result = .ok (roster.find name) := by
  rw [find, hroster]
  rfl

theorem perform_result (session : Session) (context : Context) (piece : Music Payload) :
    (session.perform context piece).result = (piece.outcome session.roster context).result := by
  rw [← Music.perform_eq_outcome]
  rfl

/-- Sessions whose rosters list the same players perform alike. -/
theorem Lists.perform_result_eq {other : Session} {substitute : Player} {registered : List Player}
    (hsession : session.Lists substitute registered) (hother : other.Lists substitute registered)
    (context : Context) (piece : Music Payload) :
    (other.perform context piece).result = (session.perform context piece).result := by
  obtain ⟨roster, hroster, hsubstitute, hregistered⟩ := hsession
  obtain ⟨roster', hroster', hsubstitute', hregistered'⟩ := hother
  have hfind (name : String) : roster'.find name = roster.find name := by
    rw [Roster.find, Roster.find, hregistered, hregistered', hsubstitute, hsubstitute']
  rw [perform_result, perform_result, hroster, hroster']
  exact Music.outcome_result_eq hfind context piece

section Again

variable {context : Context} {piece : Music Payload} {between : List Use}

/-- A piece that is performed once more is performed with the same roster. -/
theorem roster_after_perform (hnone : ∀ use ∈ between, use.registered? = none) :
    ((session.after (.perform context piece)).afterAll between).roster = session.roster := by
  have hsame : (session.afterAll (.perform context piece :: between)).roster = session.roster :=
    afterAll_roster_eq (List.forall_mem_cons.mpr ⟨rfl, hnone⟩)
  exact hsame

/-- A piece that is performed once more comes to the same. -/
theorem perform_again_result (hnone : ∀ use ∈ between, use.registered? = none) :
    (((session.after (.perform context piece)).afterAll between).perform context piece).result =
      (session.perform context piece).result := by
  rw [perform_result, perform_result, roster_after_perform hnone]

/-- A piece that is performed once more asks for no new names. -/
theorem log_perform_again (hnone : ∀ use ∈ between, use.registered? = none) :
    ∀ line ∈ ((session.after (.perform context piece)).afterAll between).log
      (.perform context piece), line.level = .debug := by
  let once := session.after (.perform context piece)
  have hentries : (once.afterAll between).entries (.perform context piece) =
      session.entries (.perform context piece) := by
    rw [entries, entries, roster_after_perform hnone]
  have hperforming : ∀ entry ∈ session.entries (.perform context piece),
      entry.Performing session.roster := by
    rw [entries, Music.perform_eq_outcome]
    exact Music.outcome_enters session.roster context piece
  rw [(after_eq _).2, hentries]
  -- The same entries again: each name that is not known was asked for the first time.
  refine level_eq_debug_of_mem_writeLog hperforming fun entry hentry name hunknown => ?_
  have honce : name ∈ once.warned := by
    rw [after_warned]
    exact mem_writeLog_iff.mpr (.inr ⟨entry, hentry, hunknown⟩)
  exact mem_afterAll_warned_iff.mpr (.inl honce)

end Again

/-- A request leaves a warning just when its name is not registered and the log has not warned of
it. -/
theorem line_of_trace_eq_append {use : Use} {before after : List (Entry × Option Line)}
    {roster : Roster} {name : String} {line : Option Line}
    (hsplit : session.trace use = before ++ (.request roster name, line) :: after) :
    session.roster = some roster ∧
    (line = some (Entry.warning roster name) ↔ roster.registered? name = none ∧
      name ∉ session.warned ∧ ∀ noted ∈ before, ¬ WarnsOf name noted) ∧
    (line = none ∨ line = some (Entry.warning roster name)) := by
  obtain ⟨earlier, rfl, hrequest, rfl⟩ := line_of_annotate_eq_append hsplit
  refine ⟨roster_of_mem_entries hrequest, ?_⟩
  have hquiet : name ∉ (writeLog session.warned earlier).2 ↔
      name ∉ session.warned ∧ ∀ noted ∈ annotate session.warned earlier, ¬ WarnsOf name noted := by
    rw [mem_writeLog_iff_warnsOf, not_or, not_exists]
    simp only [not_and]
  rw [← hquiet]
  cases hregistered : roster.registered? name with
  | some player => simp [Entry.line?, Roster.contains, hregistered]
  | none =>
    by_cases hwarned : name ∈ (writeLog session.warned earlier).2 <;>
      simp [Entry.line?, Roster.contains, hregistered, hwarned]

/-- A piece that two players are asked for, one of them within a phrase. -/
def haunting : Music Payload :=
  .modify (.custom "player Ghost")
    (.modify (.phrase [.accent ⟨3, 4⟩])
      (.seq (.modify (.custom "player Wraith") (.prim (.note ⟨1, 4⟩ (.pitch 60))))
        (.modify (.custom "player Ghost") (.prim (.note ⟨1, 4⟩ (.loud 64 100))))))

end Polyphony.Session
