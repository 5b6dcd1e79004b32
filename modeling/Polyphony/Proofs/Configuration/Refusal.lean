import Polyphony.Configuration
import Polyphony.Proofs.Ratio.Faults
import Polyphony.Proofs.Sorting.Rearrangement

/-!
# Refused configurations

Why a configuration makes no context. Nearly every reason is blamed on the configuration, by the key
whose value cannot be read. Two are not: an infinity in the place of an integer, which passes the
reading of its key unblamed, and unknown keys of types that have no order, which cannot be sorted
for the blame.
-/

namespace Polyphony

/-- A fault that the reading of a key takes the blame for. -/
def Fault.Blamable (fault : Fault) : Prop :=
  fault.kind = .type ∨ fault.kind = .value ∨ fault.kind = .zeroDivision

theorem Ratio.reduced_answers (numer denom : Int) :
    Answers Fault.Blamable (reduced numer denom) :=
  (reduced_division numer denom).impFault fun _ hdivision => .inr (.inr hdivision)

theorem Ratio.ofDatum_answers (datum : Datum) : Answers Fault.Blamable (ofDatum datum) := by
  unfold ofDatum
  split
  · unfold ofText
    split
    · exact reduced_answers _ _
    · exact .throw (.inr (.inl rfl))
  · exact reduced_answers _ _
  · exact .throw (.inr (.inl rfl))

/-- Only an infinity has no integer for a reason that is not to blame. -/
theorem Datum.toInteger_answers (datum : Datum) :
    Answers (fun fault => fault.Blamable ∨
      fault = .infiniteInteger ∧ ∃ x : Binary64, datum = .float x ∧ x.isInfinite)
      datum.toInteger := by
  fun_cases toInteger datum with
  | case1 k => exact .pure trivial
  | case2 b => exact .pure trivial
  | case3 x =>
    unfold Binary64.toInteger
    split
    · exact .throw (.inl (.inr (.inl rfl)))
    · split
      case isTrue hinfinite => exact .throw (.inr ⟨rfl, x, rfl, hinfinite⟩)
      case isFalse => exact .pure trivial
  | case4 s k hinteger => exact .pure trivial
  | case5 s hinteger => exact .throw (.inl (.inr (.inl rfl)))
  | case6 data k hinteger => exact .pure trivial
  | case7 data hinteger => exact .throw (.inl (.inr (.inl rfl)))
  | case8 datum hint hbool hfloat htext hbytes => exact .throw (.inl (.inl rfl))

theorem Channel.request_answers (number : Int) : Answers Fault.Blamable (request number) := by
  unfold request
  split
  case isTrue hrange =>
    unfold ofInt
    rw [dif_pos hrange]
    exact .pure trivial
  case isFalse => exact .throw (.inr (.inl rfl))

theorem PitchClass.ofNoteName_answers (name : String) :
    Answers Fault.Blamable (ofNoteName name) := by
  unfold ofNoteName
  split
  · exact .pure trivial
  · exact .throw (.inr (.inl rfl))

theorem Modes.steps_answers (modes : Modes) (name : String) :
    Answers Fault.Blamable (modes.steps name) := by
  unfold steps
  split
  · exact .pure trivial
  · exact .throw (.inr (.inl rfl))

/-- Keys have no order only where their types have none. -/
theorem Configuration.keyBelow_answers (a b : Scalar) :
    Answers (fun fault => fault.kind = .type) (keyBelow a b) := by
  unfold keyBelow
  rw [Datum.compareBy.eq_def]
  split
  case h_1 => exact .pure trivial
  case h_2 m n _ _ =>
    unfold Datum.compareMoments
    split
    · exact .pure trivial
    · split
      · exact .throw rfl
      · exact .throw rfl
  case h_3 => exact .pure trivial
  case h_4 hlist _ => simp at hlist
  case h_5 =>
    split
    · exact .pure trivial
    · exact .throw rfl

namespace Configuration

/-- The value of the section, if the configuration has one. -/
def section? (config : Configuration) : Option Datum := Datum.lookup? config (.text "context")

/-- The keys of a section that are not known. -/
def unknownKeys (entries : Configuration) : List Scalar :=
  (entries.map (·.1)).filter fun key => !isKnown key

/-- The keys whose values are read as integers. -/
def integerKeys : List String := ["volume", "pitch", "instrument"]

/-- A fault in reading the value of a key: one that the key is blamed for, or an infinity in the
place of an integer. -/
def Unreadable (key : String) (datum : Datum) (cause : Fault) : Prop :=
  cause.Blamable ∨
    cause = .infiniteInteger ∧ key ∈ integerKeys ∧ ∃ x : Binary64, datum = .float x ∧ x.isInfinite

/-- A fault in reading the values of a section: the key of a value is blamed for it, or an infinity
in the place of an integer passes unblamed. -/
inductive Unread (entries : Configuration) : Fault → Prop where
  /-- The value of a key cannot be read. -/
  | blamed {key : String} {datum : Datum} {cause : Fault} (hkey : key ∈ keys)
      (hvalue : Datum.lookup? entries (.text key) = some datum) (hcause : cause.Blamable) :
      Unread entries (.invalidValue key cause)
  /-- An infinity stands in the place of an integer. -/
  | infinite {key : String} {x : Binary64} (hkey : key ∈ integerKeys)
      (hvalue : Datum.lookup? entries (.text key) = some (.float x)) (hinfinite : x.isInfinite) :
      Unread entries .infiniteInteger

variable {config entries : Configuration} {α : Type}

/-- Blame is put on the key of a value that cannot be read. -/
theorem readField_answers {key : String} {read : Datum → Except Fault α} (hkey : key ∈ keys)
    (hread : ∀ datum, Answers (Unreadable key datum) (read datum)) :
    Answers (Unread entries) (readField entries key read) := by
  unfold readField
  split
  case h_1 => exact .pure trivial
  case h_2 datum hvalue =>
    have hanswers := hread datum
    cases hresult : read datum with
    | ok a => exact .pure trivial
    | error cause =>
      obtain hcause | ⟨rfl, hinteger, x, rfl, hinfinite⟩ := hanswers.error hresult
      · have hblame : blame key cause = .invalidValue key cause := by
          refine if_neg fun hoverflow => ?_
          simp [Fault.Blamable, hoverflow] at hcause
        exact .throw (hblame ▸ .blamed hkey hvalue hcause)
      · exact .throw (.infinite hinteger hvalue hinfinite)

/-- The values of a section are read, or a key is blamed, or an infinity passes unblamed. -/
theorem readOverrides_answers (modes : Modes) (entries : Configuration) :
    Answers (Unread entries) (readOverrides modes entries) := by
  have hinteger {key : String} (hkey : key ∈ integerKeys) (datum : Datum) :
      Answers (Unreadable key datum) datum.toInteger :=
    datum.toInteger_answers.impFault fun _ => .imp_right fun ⟨hcause, hfloat⟩ =>
      ⟨hcause, hkey, hfloat⟩
  have hratio (key : String) (datum : Datum) :
      Answers (Unreadable key datum) (Ratio.ofDatum datum) :=
    (Ratio.ofDatum_answers datum).impFault fun _ => .inl
  have hchannel (datum : Datum) : Answers (Unreadable "instrument" datum)
      (datum.toInteger >>= Channel.request) :=
    (hinteger (by decide) datum).bind fun number _ =>
      (Channel.request_answers number).impFault fun _ => .inl
  have htonic (datum : Datum) : Answers (Unreadable "key" datum)
      (PitchClass.ofNoteName datum.display) :=
    (PitchClass.ofNoteName_answers datum.display).impFault fun _ => .inl
  have hmode (datum : Datum) : Answers (Unreadable "mode" datum) (readMode modes datum) :=
    ((modes.steps_answers datum.display).impFault fun _ => .inl).bind fun _ _ => .pure trivial
  have hkey : Answers (Unread entries) (readKey modes entries) := by
    refine (readField_answers (by decide) htonic).bind fun tonic _ => ?_
    refine (readField_answers (by decide) hmode).bind fun mode _ => ?_
    split
    · exact .pure trivial
    · exact .pure trivial
  refine (readField_answers (by decide) (hinteger (by decide))).bind fun volume _ => ?_
  refine (readField_answers (by decide) (hratio _)).bind fun durationScale _ => ?_
  refine (readField_answers (by decide) (hratio _)).bind fun lengthScale _ => ?_
  refine (readField_answers (by decide) (hinteger (by decide))).bind fun pitch _ => ?_
  refine (readField_answers (by decide) hchannel).bind fun channel _ => ?_
  exact hkey.bind fun key _ => .pure trivial

/-- An infinity stands in the place of an integer. -/
def HoldsInfinity (entries : Configuration) : Prop :=
  ∃ key ∈ integerKeys, ∃ x : Binary64,
    Datum.lookup? entries (.text key) = some (.float x) ∧ x.isInfinite

theorem Unread.kind_or_infinite {fault : Fault} (hunread : Unread entries fault) :
    fault.kind = .configuration ∨ fault = .infiniteInteger ∧ HoldsInfinity entries := by
  cases hunread with
  | blamed _ _ _ => exact .inl rfl
  | infinite hkey hvalue hinfinite => exact .inr ⟨rfl, _, hkey, _, hvalue, hinfinite⟩

/-- The section counts as empty: it is absent or void. -/
def Blank (config : Configuration) : Prop :=
  ∀ datum, section? config = some datum → datum.isVoid

/-- A mapping is read as it stands, and what counts as empty as no entries. Nothing else passes. -/
theorem contextSection_ends (config : Configuration) :
    Ends (fun entries => section? config = some (.mapping entries) ∨ entries = [] ∧ config.Blank)
      (· = .sectionNotMapping) (contextSection config) := by
  unfold contextSection Blank section?
  split
  case h_1 habsent =>
    refine .pure (.inr ⟨rfl, fun datum hdatum => ?_⟩)
    rw [habsent] at hdatum
    exact absurd hdatum (by simp)
  case h_2 datum hdatum =>
    rw [hdatum]
    split
    case isTrue hvoid => exact .pure (.inr ⟨rfl, fun _ hsame => Option.some.inj hsame ▸ hvoid⟩)
    case isFalse =>
      split
      · exact .pure (.inl rfl)
      · exact .throw rfl

theorem contextSection_mapping (hsection : section? config = some (.mapping entries)) :
    contextSection config = .ok entries := by
  unfold contextSection
  rw [← section?, hsection]
  dsimp only
  split
  case isTrue hvoid => rw [List.isEmpty_iff.mp hvoid]; rfl
  case isFalse => rfl

/-- Blame for unknown keys lists them in some order. -/
def ListsUnknown (entries : Configuration) (fault : Fault) : Prop :=
  ∃ sorted : List Scalar, sorted.Perm (unknownKeys entries) ∧
    fault = .unknownKeys (sorted.map Scalar.shown) keys

/-- Two unknown keys have no order, and the fault says so. -/
def ApartKeys (entries : Configuration) (fault : Fault) : Prop :=
  ∃ a ∈ unknownKeys entries, ∃ b ∈ unknownKeys entries, keyBelow a b = .error fault

/-- A section passes when all its keys are known. Unknown keys are blamed, unless two of them have
no order. -/
theorem checkKeys_ends (entries : Configuration) :
    Ends (fun _ => unknownKeys entries = [])
      (fun fault =>
        unknownKeys entries ≠ [] ∧ (ListsUnknown entries fault ∨ ApartKeys entries fault))
      (checkKeys entries) := by
  unfold checkKeys
  have hsort : Ends (List.Perm · (unknownKeys entries))
      (fun fault => unknownKeys entries ≠ [] ∧
        (ListsUnknown entries fault ∨ ApartKeys entries fault))
      (Sorting.sort keyBelow (unknownKeys entries)) :=
    (Sorting.sort_ends keyBelow (unknownKeys entries)).impFault
      fun _ ⟨a, ha, b, hb, hfault⟩ => ⟨List.ne_nil_of_mem ha, .inr ⟨a, ha, b, hb, hfault⟩⟩
  refine hsort.bind fun sorted hsorted => ?_
  split
  case isTrue hempty =>
    rw [List.isEmpty_iff.mp hempty] at hsorted
    exact .pure hsorted.nil_eq.symm
  case isFalse hempty =>
    refine .throw ⟨fun hnone => hempty ?_, .inl ⟨sorted, hsorted, rfl⟩⟩
    rw [hnone] at hsorted
    rw [hsorted.eq_nil]
    rfl

theorem checkKeys_eq_ok (hknown : unknownKeys entries = []) : checkKeys entries = .ok () := by
  have hends := checkKeys_ends entries
  cases hresult : checkKeys entries with
  | ok _ => rfl
  | error fault => exact absurd hknown (hends.error hresult).1

/-- A fault of a section: its keys are blamed, or two of them have no order, or a value is not
read. -/
def SectionFault (entries : Configuration) (fault : Fault) : Prop :=
  ListsUnknown entries fault ∨ ApartKeys entries fault ∨ Unread entries fault

/-- Checks the keys of a section and reads its values. -/
def readSection (modes : Modes) (entries : Configuration) : Except Fault Overrides := do
  checkKeys entries
  readOverrides modes entries

/-- The keys of a section are all known, or it is not read. -/
theorem readSection_ends (modes : Modes) (entries : Configuration) :
    Ends (fun _ => unknownKeys entries = []) (SectionFault entries)
      (readSection modes entries) := by
  have hkeys : Ends (fun _ => unknownKeys entries = []) (SectionFault entries)
      (checkKeys entries) :=
    (checkKeys_ends entries).impFault fun _ ⟨_, hfault⟩ => hfault.imp_right .inl
  have hvalues : Answers (SectionFault entries) (readOverrides modes entries) :=
    (readOverrides_answers modes entries).impFault fun _ hunread => .inr (.inr hunread)
  exact hkeys.bind fun _ hknown => hvalues.imp fun _ _ => hknown

/-- A configuration is read in two parts: its section is found, and its entries are read. -/
theorem context_result (modes : Modes) (roster : Option Roster) (config : Configuration) :
    (config.context modes roster).result = (do
      let entries ← contextSection config
      let overrides ← readSection modes entries
      pure (overrides.context (roster.getD .standard))) := by
  unfold context readSection
  simp only [Recorded.result_bind, Recorded.result_lift, bind_assoc]
  refine bind_congr fun entries => bind_congr fun _ => bind_congr fun overrides => ?_
  cases overrides.player with
  | none => rfl
  | some name => rfl

/-- A section that is a mapping is read as it stands. -/
theorem context_result_mapping (hsection : section? config = some (.mapping entries))
    (modes : Modes) (roster : Option Roster) :
    (config.context modes roster).result = (do
      let overrides ← readSection modes entries
      pure (overrides.context (roster.getD .standard))) := by
  rw [context_result, contextSection_mapping hsection]
  rfl

/-- A configuration whose section counts as empty makes the standard context. -/
theorem Blank.context_eq_ok (hblank : config.Blank) (modes : Modes) (roster : Option Roster) :
    (config.context modes roster).result = .ok .standard := by
  have hsection : contextSection config = .ok [] := by
    unfold contextSection
    split
    case h_1 => rfl
    case h_2 datum hdatum => exact if_pos (hblank datum hdatum)
  rw [context_result, hsection]
  refine bind_eq_ok_iff.mpr ⟨[], rfl, ?_⟩
  rw [readSection, checkKeys_eq_ok rfl]
  rfl

/-- A configuration makes a context only from a section that counts as empty or whose keys are all
known. It is refused for its section, for its keys or for a value. -/
theorem context_ends (modes : Modes) (roster : Option Roster) (config : Configuration) :
    Ends (fun _ => config.Blank ∨
        ∃ entries, section? config = some (.mapping entries) ∧ unknownKeys entries = [])
      (fun fault => fault = .sectionNotMapping ∨
        ∃ entries, section? config = some (.mapping entries) ∧ SectionFault entries fault)
      (config.context modes roster).result := by
  by_cases hblank : config.Blank
  · rw [hblank.context_eq_ok modes roster]
    exact .inl hblank
  · rw [context_result]
    refine ((contextSection_ends config).impFault fun _ => .inl).bind fun entries hentries => ?_
    have hsection : section? config = some (.mapping entries) :=
      hentries.resolve_right fun hempty => hblank hempty.2
    refine ((readSection_ends modes entries).impFault fun fault hfault => ?_).bind
      fun _ hknown => ?_
    · exact .inr ⟨entries, hsection, hfault⟩
    · exact .pure (.inr ⟨entries, hsection, hknown⟩)

/-- Any other section that is no mapping is refused. -/
theorem context_eq_error {datum : Datum} (hsection : section? config = some datum)
    (hvoid : ¬ datum.isVoid) (hmapping : ∀ entries, datum ≠ .mapping entries) (modes : Modes)
    (roster : Option Roster) :
    (config.context modes roster).result = .error .sectionNotMapping := by
  have hrefused : contextSection config = .error .sectionNotMapping := by
    unfold contextSection
    rw [← section?, hsection]
    dsimp only
    rw [if_neg hvoid]
    cases datum with
    | mapping entries => exact absurd rfl (hmapping entries)
    | _ => rfl
  rw [context_result, hrefused]
  rfl

/-- A section with unknown keys is refused for them. -/
theorem exists_context_eq_error (hsection : section? config = some (.mapping entries))
    (hunknown : unknownKeys entries ≠ []) (modes : Modes) (roster : Option Roster) :
    ∃ fault, (config.context modes roster).result = .error fault ∧
      (ListsUnknown entries fault ∨ ApartKeys entries fault) := by
  have hends := checkKeys_ends entries
  cases hchecked : checkKeys entries with
  | ok _ => exact absurd (hends.ok hchecked) hunknown
  | error fault =>
    refine ⟨fault, ?_, (hends.error hchecked).2⟩
    rw [context_result_mapping hsection, readSection, hchecked]
    rfl

/-- What a configuration is refused for. A context is made only from a section that counts as empty,
which changes nothing, or from a mapping whose keys are all known; any other section is refused, and
so are unknown keys. Faults are those of a configuration, with two exceptions: an infinity in the
place of an integer, and unknown keys that have no order among each other. -/
theorem context_read_or_refused (modes : Modes) (roster : Option Roster) (config : Configuration) :
    (∀ context, (config.context modes roster).result = .ok context →
      config.Blank ∨
        ∃ entries, section? config = some (.mapping entries) ∧ unknownKeys entries = []) ∧
    (config.Blank → (config.context modes roster).result = .ok .standard) ∧
    (∀ datum, section? config = some datum → ¬ datum.isVoid →
      (∀ entries, datum ≠ .mapping entries) →
        (config.context modes roster).result = .error .sectionNotMapping) ∧
    (∀ entries, section? config = some (.mapping entries) → unknownKeys entries ≠ [] →
      ∃ fault, (config.context modes roster).result = .error fault ∧
        (ListsUnknown entries fault ∨ ApartKeys entries fault)) ∧
    ∀ fault, (config.context modes roster).result = .error fault →
      fault.kind = .configuration ∨
        ∃ entries, section? config = some (.mapping entries) ∧
          (fault = .infiniteInteger ∧ HoldsInfinity entries ∨
            fault.kind = .type ∧ ApartKeys entries fault) := by
  have hends := context_ends modes roster config
  refine ⟨fun context hok => hends.ok hok, fun hblank => hblank.context_eq_ok modes roster,
    ?_, ?_, ?_⟩
  · exact fun datum hsection hvoid hmapping =>
      context_eq_error hsection hvoid hmapping modes roster
  · exact fun entries hsection hunknown => exists_context_eq_error hsection hunknown modes roster
  · intro fault herror
    obtain rfl | ⟨entries, hsection, hlists | hapart | hunread⟩ := hends.error herror
    · exact .inl rfl
    · obtain ⟨sorted, _, rfl⟩ := hlists
      exact .inl rfl
    · obtain ⟨a, _, b, _, hfault⟩ := id hapart
      exact .inr ⟨entries, hsection, .inr ⟨(keyBelow_answers a b).error hfault, hapart⟩⟩
    · exact hunread.kind_or_infinite.imp_right fun hinfinite => ⟨entries, hsection, .inl hinfinite⟩

/-- The configuration of a section. -/
def ofSection (datum : Datum) : Configuration := [(.text "context", datum)]

/-- A key that is not known is refused by its name, and a list in the place of the section as no
mapping. -/
theorem strange_sections_refused :
    (unknownKeys [(.text "tempo", .int 2)] ≠ [] ∧
      ((ofSection (.mapping [(.text "tempo", .int 2)])).context .standard none).result =
        .error (.unknownKeys ["'tempo'"] keys)) ∧
    ¬ (Datum.list [.int 1]).isVoid ∧
      ((ofSection (.list [.int 1])).context .standard none).result = .error .sectionNotMapping := by
  have hunknown : unknownKeys [(.text "tempo", .int 2)] = [.text "tempo"] := by decide +kernel
  have hsome : unknownKeys [(.text "tempo", .int 2)] ≠ [] := by simp [hunknown]
  refine ⟨⟨hsome, ?_⟩, by decide, ?_⟩
  · have hrefused := context_read_or_refused .standard none
      (ofSection (.mapping [(.text "tempo", .int 2)]))
    obtain ⟨fault, herror, ⟨sorted, hsorted, rfl⟩ | ⟨a, ha, b, hb, hfault⟩⟩ :=
      hrefused.2.2.2.1 _ (by decide +kernel) hsome
    · rw [hunknown, List.perm_singleton] at hsorted
      rw [herror, hsorted]
      decide +kernel
    · rw [hunknown, List.mem_singleton] at ha hb
      have hsame : keyBelow a b = .ok false := by
        rw [ha, hb]
        simp [keyBelow, Datum.compareBy, Comparison.holds, pure, Except.pure]
      rw [hsame] at hfault
      exact absurd hfault (by simp)
  · have hrefused := context_read_or_refused .standard none (ofSection (.list [.int 1]))
    exact hrefused.2.2.1 (.list [.int 1]) (by decide +kernel) (by decide) (by simp)

/-- Not every fault is blamed on the configuration, and not every section that is no mapping is
refused: an infinite volume passes as it is, an empty list counts as no section, and a number and a
text that are no keys cannot be sorted for the blame. -/
theorem infinite_volume_unblamed :
    ((ofSection (.mapping [(.text "volume", .float (.infinity false))])).context .standard
        none).result = .error .infiniteInteger ∧
      Fault.infiniteInteger.kind ≠ .configuration ∧
    ((ofSection (.list [])).context .standard none).result = .ok .standard ∧
    ((ofSection (.mapping [(.int 1, .null), (.text "tempo", .null)])).context .standard
        none).result = .error (.unordered "<" "str" "int") := by
  refine ⟨?_, by decide, ?_, ?_⟩
  · rw [context_result_mapping rfl, readSection, checkKeys_eq_ok (by decide +kernel)]
    rfl
  · refine Blank.context_eq_ok (fun datum hsection => ?_) _ _
    obtain rfl : Datum.list [] = datum := Option.some.inj hsection
    rfl
  · have hcompare : keyBelow (.text "tempo") (.int 1) = .error (.unordered "<" "str" "int") := by
      rw [keyBelow, Datum.compareBy.eq_def]
      rfl
    have hsort : Sorting.sort keyBelow [.int 1, .text "tempo"] =
        .error (.unordered "<" "str" "int") := by
      rw [Sorting.sort, Sorting.sortFrom, Sorting.followers, hcompare]
      rfl
    have hunknown : unknownKeys [(.int 1, .null), (.text "tempo", .null)] =
        [.int 1, .text "tempo"] := by decide +kernel
    rw [context_result_mapping rfl, readSection, checkKeys, ← unknownKeys, hunknown, hsort]
    rfl

end Configuration

end Polyphony
